/-!
Strings of octets, and the unsigned integers that they write most significant octet first.
-/

namespace MetadataTrust

/-- A string of octets. -/
abbrev Octets := List UInt8

namespace Octets

/-- The unsigned integer that the octets write. -/
def toNat (bs : Octets) : Nat := bs.foldl (fun n b => 256 * n + b.toNat) 0

/-- The lowest `k` octets of `n`. -/
def ofNat : Nat → Nat → Octets
  | 0, _ => []
  | k + 1, n => ofNat k (n / 256) ++ [UInt8.ofNat n]

@[simp] theorem length_ofNat (k n : Nat) : (ofNat k n).length = k := by
  induction k generalizing n with
  | zero => rfl
  | succ k ih => simp [ofNat, ih]

/-- How many octets `n` takes; zero takes none. -/
def width (n : Nat) : Nat := if n = 0 then 0 else width (n / 256) + 1
termination_by n
decreasing_by omega

/-- The octets of `n` without leading zeros; zero has none. -/
def ofNatMinimal (n : Nat) : Octets := ofNat (width n) n

/-- The octets as an integer, least significant octet first. -/
def toNatReversed (bs : Octets) : Nat := toNat bs.reverse

/-- Cuts the octets into pieces of `n`; the last piece may be shorter. -/
def chunks (n : Nat) (bs : Octets) : List Octets :=
  if _h : n = 0 ∨ bs = [] then [] else bs.take n :: chunks n (bs.drop n)
termination_by bs.length
decreasing_by
  have := List.length_pos_iff.2 (fun e => _h (.inr e))
  simp only [List.length_drop]; omega

/-- The UTF-8 encoding of a text. -/
def ofText (s : String) : Octets := s.toUTF8.data.toList

/-- The text that the octets encode in UTF-8, if they do. -/
def toText? (bs : Octets) : Option String := String.fromUTF8? ⟨bs.toArray⟩

/-- The digit for a value below sixteen. -/
def hexDigit (n : Nat) : Char := if n < 10 then Char.ofNat (48 + n) else Char.ofNat (87 + n)

/-- Two lower-case hexadecimal digits for each octet. -/
def toHex (bs : Octets) : String :=
  String.ofList (bs.flatMap fun b => [hexDigit (b.toNat / 16), hexDigit (b.toNat % 16)])

/-- Whether `pattern` occurs in the octets as a run of neighbours. -/
def contains (pattern : Octets) : Octets → Bool
  | [] => pattern.isEmpty
  | b :: bs => pattern.isPrefixOf (b :: bs) || contains pattern bs

end Octets

end MetadataTrust
