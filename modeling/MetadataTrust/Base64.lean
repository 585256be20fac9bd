import MetadataTrust.Octets
import MetadataTrust.Text.Blank

/-!
Standard Base64 with padding.

Three octets make four characters, and the last one or two octets are padded.  Reading accepts just
what writing gives: the padding must be there and the bits that it leaves over must be zero.
-/

namespace MetadataTrust.Base64

/-- The character for a value below 64. -/
def digit (n : Nat) : Char :=
  if n < 26 then Char.ofNat (65 + n)
  else if n < 52 then Char.ofNat (71 + n)
  else if n < 62 then Char.ofNat (n - 4)
  else if n = 62 then '+' else '/'

/-- The value of a character of the alphabet. -/
def digitValue? (c : Char) : Option Nat :=
  let n := c.toNat
  if 65 ≤ n ∧ n ≤ 90 then some (n - 65)
  else if 97 ≤ n ∧ n ≤ 122 then some (n - 71)
  else if 48 ≤ n ∧ n ≤ 57 then some (n + 4)
  else if c = '+' then some 62
  else if c = '/' then some 63
  else none

/-- The characters for a string of octets. -/
def encodeChars : Octets → List Char
  | [] => []
  | [a] =>
    [digit (a.toNat / 4), digit (a.toNat % 4 * 16), '=', '=']
  | [a, b] =>
    [digit (a.toNat / 4), digit (a.toNat % 4 * 16 + b.toNat / 16), digit (b.toNat % 16 * 4), '=']
  | a :: b :: c :: rest =>
    digit (a.toNat / 4) :: digit (a.toNat % 4 * 16 + b.toNat / 16) ::
      digit (b.toNat % 16 * 4 + c.toNat / 64) :: digit (c.toNat % 64) :: encodeChars rest

/-- The octets that the characters stand for. -/
def decodeChars? : List Char → Option Octets
  | [] => some []
  | [a, b, '=', '='] => do
    let x ← digitValue? a
    let y ← digitValue? b
    guard (y % 16 = 0)
    return [UInt8.ofNat (x * 4 + y / 16)]
  | [a, b, c, '='] => do
    let x ← digitValue? a
    let y ← digitValue? b
    let z ← digitValue? c
    guard (z % 4 = 0)
    return [UInt8.ofNat (x * 4 + y / 16), UInt8.ofNat (y % 16 * 16 + z / 4)]
  | a :: b :: c :: d :: rest => do
    let x ← digitValue? a
    let y ← digitValue? b
    let z ← digitValue? c
    let w ← digitValue? d
    let more ← decodeChars? rest
    return UInt8.ofNat (x * 4 + y / 16) :: UInt8.ofNat (y % 16 * 16 + z / 4) ::
      UInt8.ofNat (z % 4 * 64 + w) :: more
  | _ => none

/-- The text for a string of octets. -/
def encode (bs : Octets) : String := String.ofList (encodeChars bs)

/-- The octets of a text that holds Base64 and nothing else. -/
def decodeStrict? (s : String) : Option Octets := decodeChars? s.toList

/-- The octets of a text that may be broken up by blanks anywhere, as line-wrapped fields are. -/
def decode? (s : String) : Option Octets := decodeChars? (Text.removeBlanks s.toList)

end MetadataTrust.Base64
