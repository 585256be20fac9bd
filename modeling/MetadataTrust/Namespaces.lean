import MetadataTrust.SortedSet

/-!
The namespaces of one XML object.

Exclusive canonicalization renders the namespaces that element and attribute names use.  A namespace
that only content refers to is lost unless the object declares it.
-/

namespace MetadataTrust

/-- A namespace bound to a prefix, or the default namespace. -/
structure Namespace where
  uri : String
  nsPrefix : Option String := none
deriving DecidableEq, Repr, Inhabited

namespace Namespace

/-- The prefix as a list: an absent one is empty, so it comes first. -/
def prefixKey (n : Namespace) : List String := n.nsPrefix.toList

theorem prefixKey_inj {a b : Namespace} (h : a.prefixKey = b.prefixKey) :
    a.nsPrefix = b.nsPrefix := by
  unfold prefixKey at h
  cases ha : a.nsPrefix <;> cases hb : b.nsPrefix <;> simp_all

/-- Namespaces are ordered by their URI, then by their prefix, an absent prefix first. -/
instance : LT Namespace :=
  ⟨fun a b => a.uri < b.uri ∨ (a.uri = b.uri ∧ a.prefixKey < b.prefixKey)⟩

instance : DecidableLT Namespace := fun a b =>
  inferInstanceAs (Decidable (a.uri < b.uri ∨ (a.uri = b.uri ∧ a.prefixKey < b.prefixKey)))

instance : LinearLT Namespace where
  trans hab hbc := by
    rcases hab with h | ⟨h, h'⟩ <;> rcases hbc with k | ⟨k, k'⟩
    · exact .inl (String.lt_trans h k)
    · exact .inl (k ▸ h)
    · exact .inl (h ▸ k)
    · exact .inr ⟨h.trans k, List.lt_trans h' k'⟩
  eq_of_not_lt {a b} hab hba := by
    have hu : a.uri = b.uri :=
      LinearLT.eq_of_not_lt (fun h => hab (.inl h)) (fun h => hba (.inl h))
    have hp : a.prefixKey = b.prefixKey :=
      Std.Trichotomous.trichotomous (r := (· < ·)) _ _ (fun h => hab (.inr ⟨hu, h⟩))
        (fun h => hba (.inr ⟨hu.symm, h⟩))
    have hn := prefixKey_inj hp
    cases a; cases b
    cases hu; cases hn; rfl

end Namespace

/-- The namespaces that an object declares, that its names use, and that its content refers to. -/
structure NamespaceTable where
  declared : SortedSet Namespace := ∅
  visible : SortedSet Namespace := ∅
  content : SortedSet Namespace := ∅
deriving DecidableEq, Inhabited

namespace NamespaceTable

/-- Records a namespace that an element or attribute name uses. -/
def addVisible (t : NamespaceTable) (n : Namespace) : NamespaceTable :=
  { t with visible := t.visible.insert n }

/-- Records a namespace that content refers to. -/
def addContent (t : NamespaceTable) (n : Namespace) : NamespaceTable :=
  { t with content := t.content.insert n }

/-- Declares a namespace. -/
def declare (t : NamespaceTable) (n : Namespace) : NamespaceTable :=
  { t with declared := t.declared.insert n }

/-- The namespaces of content that no element or attribute name uses. -/
def nonVisible (t : NamespaceTable) : SortedSet Namespace := t.content.diff t.visible

/-- The namespaces that would be lost: neither visible nor declared. -/
def undeclared (t : NamespaceTable) : SortedSet Namespace := t.nonVisible.diff t.declared

/-- Declares every namespace that would be lost, and counts them. -/
def declareNonVisible (t : NamespaceTable) : Nat × NamespaceTable :=
  (t.undeclared.size, { t with declared := t.declared.insertMany t.undeclared.toList })

end NamespaceTable

end MetadataTrust
