/-!
Finite sets kept as their elements in increasing order.

Listing a set gives each member once, in order.  Membership after an insertion needs no law of the
order; that the elements stay in order needs it to be transitive and total.
-/

namespace MetadataTrust

/-- The laws of an order that insertion needs to keep a list in order. -/
class LinearLT (α : Type) [LT α] : Prop where
  trans {a b c : α} : a < b → b < c → a < c
  eq_of_not_lt {a b : α} : ¬ a < b → ¬ b < a → a = b

instance : LinearLT String where
  trans := Std.lt_trans
  eq_of_not_lt h h' := Std.le_antisymm (Std.not_lt.1 h') (Std.not_lt.1 h)

section insertion

variable {α : Type} [LT α] [DecidableLT α] [DecidableEq α]

/-- Puts `a` before the first element above it, unless it is there already. -/
def insertSorted (a : α) : List α → List α
  | [] => [a]
  | b :: l => if a < b then a :: b :: l else if a = b then b :: l else b :: insertSorted a l

theorem mem_insertSorted {a x : α} {l : List α} : x ∈ insertSorted a l ↔ x = a ∨ x ∈ l := by
  induction l with
  | nil => simp [insertSorted]
  | cons b l ih =>
    unfold insertSorted
    split
    · simp
    · split
      · rename_i h; subst h; simp
      · simp only [List.mem_cons, ih]; exact or_left_comm

theorem pairwise_insertSorted [LinearLT α] {a : α} {l : List α} (h : l.Pairwise (· < ·)) :
    (insertSorted a l).Pairwise (· < ·) := by
  induction l with
  | nil => simp [insertSorted]
  | cons b l ih =>
    rw [List.pairwise_cons] at h
    unfold insertSorted
    split
    · rename_i hab
      refine List.pairwise_cons.2 ⟨fun x hx => ?_, List.pairwise_cons.2 h⟩
      rcases List.mem_cons.1 hx with rfl | hx
      · exact hab
      · exact LinearLT.trans hab (h.1 x hx)
    · split
      · exact List.pairwise_cons.2 h
      · rename_i hab hne
        refine List.pairwise_cons.2 ⟨fun x hx => ?_, ih h.2⟩
        rcases mem_insertSorted.1 hx with rfl | hx
        · exact Classical.byContradiction fun hba =>
            hne (LinearLT.eq_of_not_lt hab hba)
        · exact h.1 x hx

end insertion

/-- A finite set, as its elements in increasing order. -/
structure SortedSet (α : Type) [LT α] where
  /-- The elements, each once, in increasing order. -/
  toList : List α
  increasing : toList.Pairwise (· < ·)

namespace SortedSet

variable {α : Type} [LT α]

/-- The set with no elements. -/
def empty : SortedSet α := ⟨[], .nil⟩

instance : EmptyCollection (SortedSet α) := ⟨empty⟩

instance : Inhabited (SortedSet α) := ⟨empty⟩

instance : Membership α (SortedSet α) := ⟨fun s a => a ∈ s.toList⟩

@[ext] theorem ext_toList {s t : SortedSet α} (h : s.toList = t.toList) : s = t := by
  cases s; cases t; cases h; rfl

theorem mem_def {a : α} {s : SortedSet α} : a ∈ s ↔ a ∈ s.toList := Iff.rfl

@[simp] theorem not_mem_empty (a : α) : ¬ a ∈ (∅ : SortedSet α) := List.not_mem_nil

instance [DecidableEq α] : DecidableEq (SortedSet α) := fun s t =>
  decidable_of_iff (s.toList = t.toList) ⟨ext_toList, fun h => h ▸ rfl⟩

instance [DecidableEq α] (a : α) (s : SortedSet α) : Decidable (a ∈ s) :=
  inferInstanceAs (Decidable (a ∈ s.toList))

/-- Whether the set has no elements. -/
def isEmpty (s : SortedSet α) : Bool := s.toList.isEmpty

/-- The number of elements. -/
def size (s : SortedSet α) : Nat := s.toList.length

/-- The elements that satisfy `p`. -/
def filter (p : α → Bool) (s : SortedSet α) : SortedSet α :=
  ⟨s.toList.filter p, s.increasing.filter p⟩

@[simp] theorem mem_filter {p : α → Bool} {s : SortedSet α} {a : α} :
    a ∈ s.filter p ↔ a ∈ s ∧ p a = true := List.mem_filter

/-- The elements of `s` that are not in `t`. -/
def diff [DecidableEq α] (s t : SortedSet α) : SortedSet α := s.filter (· ∉ t)

@[simp] theorem mem_diff [DecidableEq α] {s t : SortedSet α} {x : α} :
    x ∈ s.diff t ↔ x ∈ s ∧ ¬ x ∈ t := by
  simp [diff]

variable [DecidableLT α] [DecidableEq α] [LinearLT α]

/-- Adds `a`. -/
def insert (s : SortedSet α) (a : α) : SortedSet α :=
  ⟨insertSorted a s.toList, pairwise_insertSorted s.increasing⟩

@[simp] theorem mem_insert {s : SortedSet α} {a x : α} : x ∈ s.insert a ↔ x = a ∨ x ∈ s :=
  mem_insertSorted

/-- Adds every element of `l`. -/
def insertMany (s : SortedSet α) (l : List α) : SortedSet α := l.foldl insert s

@[simp] theorem mem_insertMany {s : SortedSet α} {l : List α} {x : α} :
    x ∈ s.insertMany l ↔ x ∈ s ∨ x ∈ l := by
  induction l generalizing s with
  | nil => simp [insertMany]
  | cons a l ih =>
    have : s.insertMany (a :: l) = (s.insert a).insertMany l := rfl
    rw [this, ih, mem_insert, List.mem_cons, or_assoc, or_left_comm]

/-- The set of the elements of `l`. -/
def ofList (l : List α) : SortedSet α := insertMany ∅ l

@[simp] theorem mem_ofList {l : List α} {x : α} : x ∈ ofList l ↔ x ∈ l := by
  simp [ofList]

end SortedSet

/-- A set of names, in the order of their code points. -/
abbrev NameSet := SortedSet String

end MetadataTrust
