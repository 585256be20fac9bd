import MetadataTrust.Octets
import MetadataTrust.Yaml.ScalarText

/-!
The tags of YAML nodes.

A tag is written in ASCII, in which escapes give octets.  The octets follow the pattern of UTF-8, but need
not be the encoding of a text.
-/

namespace MetadataTrust.Yaml

/-- A tag. -/
abbrev Tag := Octets

namespace Tag

/-- The tag of null. -/
def null : Tag := Octets.ofText "tag:yaml.org,2002:null"

/-- The tag of truth values. -/
def bool : Tag := Octets.ofText "tag:yaml.org,2002:bool"

/-- The tag of integers. -/
def int : Tag := Octets.ofText "tag:yaml.org,2002:int"

/-- The tag of floating-point numbers. -/
def float : Tag := Octets.ofText "tag:yaml.org,2002:float"

/-- The name of a tag that a document defines for itself. -/
def localName? : Option Tag → Option String
  | some (0x21 :: name) => Octets.toText? name
  | _ => none

/-- What tag handles stand for, where a document does not say otherwise. -/
def standardHandles : List (String × Octets) :=
  [("!", Octets.ofText "!"), ("!!", Octets.ofText "tag:yaml.org,2002:")]

/-- The tag that a handle and a suffix make. -/
def resolve? (handles : List (String × Octets)) (handle : String) (suffix : Octets) : Option Tag :=
  if handle.isEmpty then some suffix
  else do
    let (_, meaning) ← handles.find? (·.1 == handle)
    return meaning ++ suffix

/-- How many octets follow the first one of a character. -/
def followers? (n : Nat) : Option Nat :=
  if n < 0x80 then some 0
  else if n < 0xC0 then none
  else if n < 0xE0 then some 1
  else if n < 0xF0 then some 2
  else if n < 0xF8 then some 3
  else none

/-- The octets of the characters of a tag, of which some are given by their hexadecimal codes; `pending`
of those belong to the character before. -/
def octets? : Nat → List Char → Option Octets
  | 0, [] => some []
  | pending, '%' :: a :: b :: rest => do
    let n ← hexValue? [a, b]
    let pending ← match pending with
      | 0 => followers? n
      | pending + 1 => if n / 64 = 2 then some pending else none
    return UInt8.ofNat n :: (← octets? pending rest)
  | _, '%' :: _ => none
  | 0, c :: rest => do return Octets.ofText (String.singleton c) ++ (← octets? 0 rest)
  | _ + 1, _ => none

/-- The octets of the characters of a tag; an octet of zero ends them. -/
def ofChars? (cs : List Char) : Option Octets := do return (← octets? 0 cs).takeWhile (· ≠ 0)

end Tag

end MetadataTrust.Yaml
