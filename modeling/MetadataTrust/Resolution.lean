import MetadataTrust.Criteria

/-!
Resolution: from criteria to an ordered list of items.

Finding nothing is not an error; it gives the empty list.
-/

namespace MetadataTrust

/-- Why a resolution fails. -/
inductive ResolutionError where
  /-- A criterion is missing that the resolver needs. -/
  | missing (kind : CriterionKind)
  /-- A store of metadata has never been filled. -/
  | notRefreshed (source : String)
  /-- A store cannot be read. -/
  | unavailable (reason : String)
deriving DecidableEq, Repr

namespace ResolutionError

/-- The failure in words. -/
def message : ResolutionError → String
  | .missing kind => "invalid criteria: " ++ kind.name ++ " is required"
  | .notRefreshed source =>
    "backing store unavailable: metadata resolver '" ++ source ++ "' has not been refreshed"
  | .unavailable reason => "backing store unavailable: " ++ reason

/-- Whether the same resolution may succeed later. -/
def isTransient : ResolutionError → Bool
  | .missing _ => false
  | .notRefreshed _ | .unavailable _ => true

end ResolutionError

/-- The items that match criteria, in the resolver's order. -/
abbrev Resolver (α : Type) := Criteria → Except ResolutionError (List α)

/-- The first item, if any. -/
def Resolver.single {α : Type} (r : Resolver α) (c : Criteria) :
    Except ResolutionError (Option α) := do
  return (← r c).head?

/-- The criterion of a kind that must be there. -/
def required {α : Type} (kind : CriterionKind) : Option α → Except ResolutionError α
  | some a => .ok a
  | none => .error (.missing kind)

/-- Items that were resolved and are handed out one at a time. -/
structure Cursor (α : Type) where
  remaining : List α
deriving Inhabited

/-- The next item, and the cursor after it. -/
def Cursor.next {α : Type} (c : Cursor α) : Option α × Cursor α :=
  match c.remaining with
  | [] => (none, ⟨[]⟩)
  | a :: more => (some a, ⟨more⟩)

end MetadataTrust
