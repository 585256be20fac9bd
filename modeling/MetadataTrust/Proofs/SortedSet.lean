import Mathlib.Data.List.Sort
import MetadataTrust.Namespaces

/-!
# Sets and their elements

A set in increasing order is determined by its elements (`SortedSet.ext_mem`), so two ways to build it up
that come to the same elements come to the same set.
-/

namespace MetadataTrust

instance : Std.Irrefl fun a b : Namespace => a < b where
  irrefl n h := by
    rcases h with h | ⟨-, h⟩
    · exact String.lt_irrefl _ h
    · exact List.lt_irrefl _ h

namespace SortedSet

variable {α : Type} [LT α] [LinearLT α] {s t : SortedSet α} {x : α}

/-- Sets with the same elements are equal. -/
theorem ext_mem [Std.Irrefl fun a b : α => a < b] (h : ∀ a, a ∈ s ↔ a ∈ t) : s = t := by
  have : Std.Antisymm fun a b : α => a < b :=
    ⟨fun a b hab hba => absurd (LinearLT.trans hab hba) (Std.Irrefl.irrefl a)⟩
  exact ext_toList (s.increasing.eq_of_mem_iff t.increasing h)

/-! ### Unions -/

variable [DecidableLT α] [DecidableEq α]

instance : Union (SortedSet α) := ⟨fun s t => s.insertMany t.toList⟩

@[simp] theorem mem_union : x ∈ s ∪ t ↔ x ∈ s ∨ x ∈ t := mem_insertMany

lemma ofList_append [Std.Irrefl fun a b : α => a < b] (l m : List α) :
    (ofList (l ++ m) : SortedSet α) = ofList l ∪ ofList m := by
  refine ext_mem fun x => ?_
  rw [mem_union, mem_ofList, mem_ofList, mem_ofList, List.mem_append]

end SortedSet

end MetadataTrust
