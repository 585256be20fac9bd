import Mathlib.Algebra.BigOperators.Group.List.Basic
import Mathlib.Algebra.Ring.Nat
import MetadataTrust.Proofs.Json.Order

/-!
# How long canonical text is

The order of an object's members does not change how long its text is, so lengths can be read off the
value as it was written.  An array gets shorter when items are taken out of it.
-/

namespace MetadataTrust

namespace Json

variable {m : String × Json} {members : List (String × Json)} {items kept : List Json}

/-! ### Lengths -/

/-- The length of an item's text with a comma. -/
def itemLength (x : Json) : Nat := x.chars.length + 1

/-- The length of a member's text with a comma. -/
def memberLength (m : String × Json) : Nat := (stringChars m.1).length + m.2.chars.length + 2

theorem length_itemChars : (itemChars items).length = (items.map itemLength).sum - 1 := by
  induction items with
  | nil => rfl
  | cons x items ih =>
    cases items with
    | nil => simp [itemChars, itemLength]
    | cons y items =>
      rw [itemChars, List.length_append, List.length_cons, ih]
      simp only [List.map_cons, List.sum_cons, itemLength]
      omega

theorem length_memberChars : (memberChars members).length = (members.map memberLength).sum - 1 := by
  induction members with
  | nil => rfl
  | cons m members ih =>
    obtain ⟨k, x⟩ := m
    cases members with
    | nil =>
      simp only [memberChars, List.length_append, List.length_cons, List.map_cons, List.map_nil,
        List.sum_cons, List.sum_nil, memberLength]
      omega
    | cons n members =>
      rw [memberChars, List.length_append, List.length_cons, ih]
      simp only [List.length_append, List.length_cons, List.map_cons, List.sum_cons, memberLength]
      omega

/-- The length of the canonical text of an object is that of its members, in whatever order. -/
theorem length_sorted_object :
    (sorted (.object members)).chars.length =
      (members.map fun m => memberLength (m.1, m.2.sorted)).sum - 1 + 2 := by
  have hperm : (sortedMembers members).Perm (members.map fun m => (m.1, m.2.sorted)) :=
    sortedMembers_perm
  have hsum := (hperm.map memberLength).sum_eq
  rw [List.map_map] at hsum
  rw [sorted, chars, List.length_append, List.length_cons, length_memberChars, hsum]
  rfl

theorem length_sorted_array :
    (sorted (.array items)).chars.length = (items.map fun x => itemLength x.sorted).sum - 1 + 2 := by
  rw [sorted, chars, List.length_append, List.length_cons, length_itemChars, sortedItems_eq,
    List.map_map]
  rfl

/-- **Taking items out of an array makes its canonical text shorter**, if each item has a text. -/
theorem length_sorted_array_lt (hsub : kept.Sublist items) (hne : kept ≠ items)
    (htext : ∀ x ∈ items, x.sorted.chars ≠ []) :
    (sorted (.array kept)).chars.length < (sorted (.array items)).chars.length := by
  obtain ⟨gone, hperm⟩ := hsub.exists_perm_append
  have hsum : (items.map fun x => itemLength x.sorted).sum =
      (kept.map fun x => itemLength x.sorted).sum + (gone.map fun x => itemLength x.sorted).sum := by
    rw [(hperm.map _).sum_eq, List.map_append, List.sum_append]
  -- something is gone, and it had a character and a comma
  have hgone : 2 ≤ (gone.map fun x => itemLength x.sorted).sum := by
    cases gone with
    | nil =>
      rw [List.append_nil] at hperm
      exact absurd (hsub.eq_of_length hperm.length_eq.symm) hne
    | cons x gone =>
      have hx : x ∈ items := hperm.mem_iff.2 (by simp)
      have hpos := List.length_pos_iff.2 (htext x hx)
      rw [List.map_cons, List.sum_cons, itemLength]
      omega
  rw [length_sorted_array, length_sorted_array, hsum]
  omega

end Json

end MetadataTrust
