import MetadataTrust.Text.Blank

/-!
The tokens of JSONPath queries.
-/

namespace MetadataTrust

/-- A token of a path. -/
inductive PathToken where
  /-- A dollar sign that stands alone. -/
  | root
  /-- A name without quotes; a dollar sign may start it. -/
  | name (text : String)
  | quoted (text : String)
  /-- Blanks. -/
  | blank
  /-- Two equals signs. -/
  | equal
  /-- One of the other characters that have a meaning of their own. -/
  | mark (c : Char)
deriving DecidableEq, Repr, Inhabited

namespace PathToken

/-- Characters that are marks. -/
def marks : List Char := ['.', '*', '[', ']', '(', ')', '@', '?', ',', ':']

/-- Characters of operators. -/
def operators : List Char := ['<', '>', '=', '&', '|', '!']

/-- Whether a character can stand in a name after its start. -/
def isNameChar (c : Char) : Bool := !Text.isBlank c && c ∉ marks && c ∉ operators

/-- The text up to the given quote, and what follows.  The first quote after a backslash is part of the
text, and no backslash is. -/
def quoted? (quote : Char) (cs : List Char) : Option (PathToken × List Char) := do
  let first := cs.takeWhile (· ≠ quote)
  let rest ← (cs.drop first.length).tail?
  let text (cs : List Char) : PathToken := .quoted (String.ofList (cs.filter (· ≠ '\\')))
  if first.getLast? = some '\\' then
    let second := rest.takeWhile (· ≠ quote)
    return (text (first ++ quote :: second), ← (rest.drop second.length).tail?)
  else return (text first, rest)

/-- The token that starts with `c` before `rest`, and what follows it. -/
def next? (c : Char) (rest : List Char) : Option (PathToken × List Char) :=
  if c = '$' then
    let name := rest.takeWhile isNameChar
    some (if name.isEmpty then .root else .name (String.ofList (c :: name)), rest.drop name.length)
  else if c ∈ marks then some (.mark c, rest)
  else if c = '\'' ∨ c = '"' then quoted? c rest
  else if c = '=' ∧ rest.head? = some '=' then some (.equal, rest.tail)
  else if Text.isBlank c then some (.blank, rest.dropWhile Text.isBlank)
  else if c ∈ operators then none
  else
    let name := rest.takeWhile fun c => isNameChar c && c ≠ '$'
    some (.name (String.ofList (c :: name)), rest.drop name.length)

/-- The tokens of a text, up to the first character that starts none.  Each takes a character, so `fuel`
bounds their number. -/
def scan : Nat → List Char → List PathToken
  | fuel + 1, c :: rest =>
    match next? c rest with
    | some (t, rest) => t :: scan fuel rest
    | none => []
  | _, _ => []

/-- The tokens of a text. -/
def ofText (s : String) : List PathToken := scan s.toList.length s.toList

end PathToken

end MetadataTrust
