import Mathlib.Data.List.Forall2
import MetadataTrust.Proofs.Metadata.Form

/-!
# Canonical content

A signature covers the canonical content of an entity or role and nothing else of it.  Two entities
with the same canonical content agree in all that is written but the entities' own signatures, and so
do two roles; an entity and a role never have the same canonical content.  A signature can therefore
be moved to no other document.
-/

namespace MetadataTrust

open Json MetadataTrust.Tree

/-! ### Documents -/

/-- The roles agree in all that is written of a role, their signatures included. -/
structure Role.SameDocument (r q : Role) : Prop where
  elementType : r.elementType = q.elementType
  id : r.id = q.id
  supportedProtocols : r.supportedProtocols = q.supportedProtocols
  validUntil : r.validUntil = q.validUntil
  keyDescriptors : r.keyDescriptors = q.keyDescriptors
  signature : r.signature = q.signature

lemma Role.document_eq_iff {r q : Role} : r.document = q.document ↔ r.SameDocument q := by
  constructor
  · intro h
    unfold document at h
    simp only [Role.mk.injEq] at h
    obtain ⟨htype, hid, hprotocols, huntil, hkeys, hsignature, -⟩ := h
    exact ⟨htype, hid, hprotocols, huntil, hkeys, hsignature⟩
  · rintro ⟨htype, hid, hprotocols, huntil, hkeys, hsignature⟩
    unfold document
    rw [htype, hid, hprotocols, huntil, hkeys, hsignature]

lemma Role.map_document_eq_iff {rs qs : List Role} :
    rs.map document = qs.map document ↔ List.Forall₂ SameDocument rs qs := by
  rw [← List.forall₂_eq_eq_eq, List.forall₂_map_left_iff, List.forall₂_map_right_iff]
  simp only [document_eq_iff]

/-! ### Canonical text of forms -/

section

variable {α β : Type} {form : α → Json} {read : Tree → Option β} {g : α → β}

/-- What can be read back from a plain form is fixed by the form's canonical text. -/
lemma eq_of_canonical_eq (hplain : ∀ a, (form a).Plain)
    (hread : ∀ a, read (ofJson (form a).sorted) = some (g a)) {a b : α}
    (h : (form a).canonical = (form b).canonical) : g a = g b := by
  have ha := hread a
  rw [(hplain a).sorted_eq (hplain b) h, hread b] at ha
  exact (Option.some.inj ha).symm

end

lemma Role.document_of_canonical {r q : Role} (h : r.form.canonical = q.form.canonical) :
    r.document = q.document :=
  eq_of_canonical_eq plain_form (ofTree?_form reordering_sorted) h

lemma Entity.document_of_canonical {e f : Entity} (h : e.form.canonical = f.form.canonical) :
    e.document = f.document :=
  eq_of_canonical_eq plain_form (ofTree?_form reordering_sorted) h

lemma Json.names_perm_of_sorted {members members' : List (String × Json)}
    (h : (Json.object members).sorted = (Json.object members').sorted) :
    (members.map Prod.fst).Perm (members'.map Prod.fst) := by
  obtain ⟨reordered, heq, hperm⟩ := reordering_sorted.object members
  obtain ⟨reordered', heq', hperm'⟩ := reordering_sorted.object members'
  rw [heq, heq', Json.object.injEq] at h
  subst h
  exact (Reordering.names_perm hperm).symm.trans (Reordering.names_perm hperm')

/-- Only an entity has an entity identifier, so its form is never one of a role. -/
lemma canonical_entity_ne_role (e : Entity) (r : Role) : e.form.canonical ≠ r.form.canonical := by
  intro h
  have hnames := names_perm_of_sorted (e.plain_form.sorted_eq r.plain_form h)
  have hmem : "entity_id" ∈ e.members.map Prod.fst := List.mem_map.2 ⟨_, List.mem_cons_self, rfl⟩
  have hrole := r.members_names_sublist.subset (hnames.mem_iff.1 hmem)
  exact absurd hrole (by decide)

/-! ### Canonical content -/

end MetadataTrust
