import MetadataTrust.Json.Basic

/-!
JSON Pointers (RFC 6901).

A pointer is a list of names and positions, each after a slash; `~1` stands for a slash in it, and
`~0` for a tilde.
-/

namespace MetadataTrust

/-- A pointer, as the tokens between its slashes. -/
structure JsonPointer where
  tokens : List String
deriving DecidableEq, Repr, Inhabited

namespace JsonPointer

/-- Undoes the escapes of a token. -/
def unescape : List Char → List Char
  | '~' :: '1' :: rest => '/' :: unescape rest
  | '~' :: '0' :: rest => '~' :: unescape rest
  | c :: rest => c :: unescape rest
  | [] => []

/-- The pieces between slashes. -/
def pieces : List Char → List (List Char)
  | [] => [[]]
  | c :: rest =>
    if c = '/' then [] :: pieces rest
    else
      match pieces rest with
      | [] => [[c]]
      | piece :: more => (c :: piece) :: more

/-- The pointer of a text, which is empty or starts with a slash. -/
def parse? (s : String) : Option JsonPointer :=
  match s.toList with
  | [] => some ⟨[]⟩
  | '/' :: rest => some ⟨(pieces rest).map fun cs => String.ofList (unescape cs)⟩
  | _ => none

/-- The position that a token names: decimal digits without a leading zero. -/
def position? (token : String) : Option Nat :=
  let ds := token.toList
  if ds ≠ [] ∧ ds.all Char.isDigit ∧ (ds.head? = some '0' → ds.length = 1) then
    some (ds.foldl (fun n c => n * 10 + (c.toNat - 48)) 0)
  else none

/-- One step down: a member of an object, or an item of an array. -/
def child? (j : Json) (token : String) : Option Json :=
  match j with
  | .object _ => j.member? token
  | .array items => do items[← position? token]?
  | _ => none

/-- The value that the tokens lead to. -/
def follow? : List String → Json → Option Json
  | [], j => some j
  | token :: more, j => do follow? more (← child? j token)

/-- The value that the pointer points at. -/
def select? (p : JsonPointer) (j : Json) : Option Json := follow? p.tokens j

/-- The value that the pointer of a text points at. -/
def selectText? (text : String) (scope : Json) : Option Json := do (← parse? text).select? scope

end JsonPointer

end MetadataTrust
