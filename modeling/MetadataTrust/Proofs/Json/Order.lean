import Mathlib.Data.List.Nodup
import MetadataTrust.Json.Canonical
import MetadataTrust.Proofs.Json.Reading
import MetadataTrust.Proofs.Octets

/-!
# The order of members

Canonical text puts the members of objects in another order and changes nothing else.  What is shown for
every such reordering holds of values as they were written, too, since leaving all as it is is one.
-/

namespace MetadataTrust.Json

variable {m : String × Json} {members : List (String × Json)} {items : List Json} {x y : Json}
  {f : Json → Json}

/-- The function puts the members of objects in some order, at every depth. -/
structure Reordering (f : Json → Json) : Prop where
  string (s : String) : f (.string s) = .string s
  array (items : List Json) : f (.array items) = .array (items.map f)
  object (members : List (String × Json)) : ∃ reordered, f (.object members) = .object reordered ∧
    reordered.Perm (members.map fun m => (m.1, f m.2))

lemma reordering_id : Reordering id where
  string _ := rfl
  array items := by rw [List.map_id]; rfl
  object members := ⟨members, rfl, by simp⟩

lemma names_map (f : Json → Json) (members : List (String × Json)) :
    (members.map fun m => (m.1, f m.2)).map Prod.fst = members.map Prod.fst := by
  rw [List.map_map]
  rfl

lemma Reordering.names_perm {reordered : List (String × Json)}
    (h : reordered.Perm (members.map fun m => (m.1, f m.2))) :
    (reordered.map Prod.fst).Perm (members.map Prod.fst) := by
  rw [← names_map f members]
  exact h.map Prod.fst

/-! ### Canonical order -/

lemma insertMember_perm : (insertMember m members).Perm (m :: members) := by
  induction members with
  | nil => exact .refl _
  | cons n members ih =>
    unfold insertMember
    split
    · exact .refl _
    · exact (ih.cons n).trans (.swap m n members)

lemma sortedItems_eq : sortedItems items = items.map sorted := by
  induction items with
  | nil => rfl
  | cons x items ih => rw [sortedItems, ih, List.map_cons]

theorem sortedMembers_perm :
    (sortedMembers members).Perm (members.map fun m => (m.1, m.2.sorted)) := by
  induction members with
  | nil => exact .refl _
  | cons m members ih =>
    obtain ⟨k, x⟩ := m
    rw [sortedMembers, List.map_cons]
    exact insertMember_perm.trans (ih.cons _)

theorem reordering_sorted : Reordering sorted where
  string _ := by rw [sorted]
  array items := by rw [sorted, sortedItems_eq]
  object members := ⟨sortedMembers members, by rw [sorted], sortedMembers_perm⟩

/-! ### Canonical text -/

theorem Plain.reordered (hf : Reordering f) (h : x.Plain) : (f x).Plain := by
  induction h with
  | string s =>
    rw [hf.string]
    exact .string s
  | array h ih =>
    rw [hf.array]
    exact .array (List.forall_mem_map.2 ih)
  | @object members hnames h ih =>
    obtain ⟨reordered, heq, hperm⟩ := hf.object members
    rw [heq]
    refine .object ?_ fun m hm => ?_
    · exact (Reordering.names_perm hperm).nodup_iff.2 hnames
    · obtain ⟨n, hn, rfl⟩ := List.mem_map.1 (hperm.mem_iff.1 hm)
      exact ih n hn

theorem canonical_inj (h : x.canonical = y.canonical) : x.sorted.chars = y.sorted.chars :=
  String.ofList_injective (Octets.ofText_injective h)

/-- **Canonical text tells values of objects, arrays and strings apart**, up to the order of members. -/
theorem Plain.sorted_eq (hx : x.Plain) (hy : y.Plain) (h : x.canonical = y.canonical) :
    x.sorted = y.sorted := by
  have hrender : x.sorted.render = y.sorted.render := congrArg String.ofList (canonical_inj h)
  have hread := (hx.reordered reordering_sorted).parse?_render
  rw [hrender, (hy.reordered reordering_sorted).parse?_render] at hread
  exact (Option.some.inj hread).symm

end MetadataTrust.Json
