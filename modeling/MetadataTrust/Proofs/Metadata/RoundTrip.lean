import MetadataTrust.Filter.SignatureValidation
import MetadataTrust.Proofs.Json.Reading
import MetadataTrust.Proofs.Metadata.Content
import MetadataTrust.Proofs.Outcome

/-!
# Export and import

What is exported and imported again is the same document: every member that is written comes back, and
what is not written is empty.  Nothing that a signature is checked against is lost on the way, so the
filter that verifies signatures does the same before and after (`SignatureValidation.apply_document`),
as long as the policy that names the trusted signers looks at documents only.  Scripts do.
-/

namespace MetadataTrust

open Json MetadataTrust.Tree

/-! ### Reading back -/

/-- The value that is written for `a` is read as `b`, with the members as they are written or in the order
of canonical text, and so is its text. -/
structure ReadsBack {α : Type} (form : α → Json) (read : Tree → Option α) (a b : α) : Prop where
  value : read (ofJson (form a)) = some b
  sorted : read (ofJson (form a).sorted) = some b
  text : (parse? (form a).render).bind (fun x => read (ofJson x)) = some b

section

variable {α : Type} {form : α → Json} {read : Tree → Option α} {g : α → α}

lemma readsBack (hplain : ∀ a, (form a).Plain)
    (hread : ∀ f, Reordering f → ∀ a, read (ofJson (f (form a))) = some (g a)) (a : α) :
    ReadsBack form read a (g a) := by
  have hvalue : read (ofJson (form a)) = some (g a) := hread id reordering_id a
  refine ⟨hvalue, hread Json.sorted reordering_sorted a, ?_⟩
  rw [(hplain a).parse?_render, Option.bind_some]
  exact hvalue

end

/-! ### Documents of entities -/

/-- The entities agree in all that is written of an entity, their signatures included. -/
structure Entity.SameDocument (e f : Entity) : Prop where
  entityId : e.entityId = f.entityId
  id : e.id = f.id
  validUntil : e.validUntil = f.validUntil
  roles : List.Forall₂ Role.SameDocument e.roles f.roles
  signature : e.signature = f.signature

lemma Role.sameDocument_document (r : Role) : r.document.SameDocument r := ⟨rfl, rfl, rfl, rfl, rfl, rfl⟩

lemma Entity.sameDocument_document (e : Entity) : e.document.SameDocument e where
  entityId := rfl
  id := rfl
  validUntil := rfl
  roles := by
    rw [document, List.forall₂_map_left_iff, List.forall₂_same]
    exact fun r _ => r.sameDocument_document
  signature := rfl

/-- The document of an object. -/
def Signable.document : Signable → Signable
  | .entity e => .entity e.document
  | .role r => .role r.document

lemma Signable.canonicalContent_document (o : Signable) :
    o.document.canonicalContent = o.canonicalContent := by
  cases o with
  | entity e => exact congrArg canonical (Entity.form_document { e with signature := none })
  | role r => exact congrArg canonical (Role.form_document { r with signature := none })

/-! ### Verifying documents -/

namespace SignedObject

/-- The document of an object, with that of its owner. -/
def document : SignedObject → SignedObject
  | .entity e => .entity e.document
  | .role owner r => .role owner.document r.document

lemma signable_document (o : SignedObject) : o.document.signable = o.signable.document := by
  cases o <;> rfl

lemma form_document (o : SignedObject) : o.document.form = o.form := by
  cases o with
  | entity e => exact e.form_document
  | role owner r => rfl

lemma id?_document (o : SignedObject) : o.document.signable.id? = o.signable.id? := by
  cases o <;> rfl

end SignedObject

/-- The policy looks at documents only. -/
def TrustPolicy.ReadsDocuments (p : TrustPolicy) : Prop := ∀ o : SignedObject, p o.document = p o

/-- A script sees the form of the object. -/
lemma ScriptedPolicy.readsDocuments (p : ScriptedPolicy) : TrustPolicy.ReadsDocuments p.policy := by
  intro o
  unfold policy evaluate scope
  rw [o.form_document]

namespace SignatureValidation

/-- The policy, if there is one, looks at documents only. -/
def ReadsDocuments (v : SignatureValidation) : Prop :=
  ∀ p, v.policy = some p → TrustPolicy.ReadsDocuments p

variable {v : SignatureValidation} (h : v.ReadsDocuments)
include h

lemma namesFor_document (o : SignedObject) :
    v.namesFor o.document = v.namesFor o := by
  unfold namesFor
  cases hp : v.policy with
  | none => rfl
  | some p =>
    simp only
    rw [h p hp o]

lemma verify_document (s : Signature) (o : SignedObject) :
    v.verify s o.document = v.verify s o := by
  unfold verify
  rw [o.id?_document, namesFor_document h, o.signable_document,
    o.signable.canonicalContent_document]

lemma keepsRole_document (owner : Entity) (r : Role) :
    v.keepsRole owner.document r.document = v.keepsRole owner r := by
  have hsignature : r.document.signature = r.signature := rfl
  unfold keepsRole
  rw [hsignature]
  cases r.signature with
  | none => rfl
  | some s => exact congrArg Except.isOk (verify_document h s (.role owner r))

/-- **The filter does the same to an entity and to its document**: it rejects both for the same reason, or
it passes both on with the same roles. -/
theorem apply_document (e : Entity) :
    v.apply e.document = (v.apply e).map (·.map Entity.document) := by
  have hroles : e.document.roles.filter (v.keepsRole { e.document with roles := [] }) =
      (e.roles.filter (v.keepsRole { e with roles := [] })).map Role.document := by
    have hkeeps : v.keepsRole { e.document with roles := [] } ∘ Role.document =
        v.keepsRole { e with roles := [] } := by
      funext r
      exact keepsRole_document h { e with roles := [] } r
    -- roles are judged with an owner without roles, whose document has none either
    change (e.roles.map Role.document).filter _ = _
    rw [List.filter_map, hkeeps]
  have hsignature : e.document.signature = e.signature := rfl
  unfold apply
  rw [hroles, hsignature]
  cases e.signature with
  | none => cases v.requireSignature <;> rfl
  | some s =>
    have hverify : v.verify s (.entity e.document) = v.verify s (.entity e) :=
      verify_document h s (.entity e)
    simp only
    rw [hverify]
    cases v.verify s (.entity e) <;> rfl

end SignatureValidation

/-! ### Export and import -/

end MetadataTrust
