import MetadataTrust.Json.Printer
import MetadataTrust.Octets

/-!
Canonical JSON (RFC 8785): compact text in UTF-8, with the members of every object in the order of
the UTF-16 units of their names.
-/

namespace MetadataTrust.Json

/-- The UTF-16 units of a character. -/
def units16 (c : Char) : List Nat :=
  let n := c.toNat
  if n < 0x10000 then [n] else [0xD800 + (n - 0x10000) / 0x400, 0xDC00 + (n - 0x10000) % 0x400]

/-- Whether a name comes before another, or is the same. -/
def nameLE (a b : String) : Bool :=
  !(b.toList.flatMap units16).lex (a.toList.flatMap units16) (decide <| · < ·)

/-- Puts a member before the first one whose name is not below its own. -/
def insertMember (m : String × Json) : List (String × Json) → List (String × Json)
  | [] => [m]
  | n :: more => if nameLE m.1 n.1 then m :: n :: more else n :: insertMember m more

mutual

/-- The value with the members of its objects in canonical order. -/
def sorted : Json → Json
  | .array items => .array (sortedItems items)
  | .object members => .object (sortedMembers members)
  | .null => .null
  | .bool b => .bool b
  | .integer n => .integer n
  | .double x => .double x
  | .string s => .string s

/-- The items with their own members in canonical order. -/
def sortedItems : List Json → List Json
  | [] => []
  | x :: more => sorted x :: sortedItems more

/-- The members in canonical order, throughout. -/
def sortedMembers : List (String × Json) → List (String × Json)
  | [] => []
  | (k, x) :: more => insertMember (k, sorted x) (sortedMembers more)

end

/-- The octets of the canonical text. -/
def canonical (j : Json) : Octets := Octets.ofText j.sorted.render

end MetadataTrust.Json
