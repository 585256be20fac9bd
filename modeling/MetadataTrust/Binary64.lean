/-!
IEEE 754 double-precision numbers, kept as their 64 bits.

`ofDecimal?` rounds a decimal to the nearest double, ties to even.  `shortest` finds the fewest
decimal digits that round back to a double, and among those the nearest.  All arithmetic is exact.
-/

namespace MetadataTrust

/-- A double, as its sign bit, its exponent field and its fraction field. -/
structure Binary64 where
  bits : UInt64
deriving DecidableEq, Repr, Inhabited

namespace Binary64

/-- The number of decimal digits of a number; zero has one. -/
def decimalDigits (n : Nat) : Nat := (Nat.toDigits 10 n).length

/-- The quotient rounded to the nearest integer, ties to even. -/
def roundedQuotient (num den : Nat) : Nat :=
  let q := num / den
  let r := num % den
  if 2 * r < den then q else if den < 2 * r then q + 1 else q + q % 2

/-- The leading bit of a normal significand, which is not stored. -/
def hiddenBit : Nat := 1 <<< 52

/-- The fraction `num / den` scaled by a power of two. -/
def scaleByTwo (num den : Nat) (e : Int) : Nat × Nat :=
  if 0 ≤ e then (num <<< e.toNat, den) else (num, den <<< (-e).toNat)

/-- The fraction `num / den` scaled by a power of ten. -/
def scaleByTen (num den : Nat) (e : Int) : Nat × Nat :=
  if 0 ≤ e then (num * Nat.pow 10 e.toNat, den) else (num, den * Nat.pow 10 (-e).toNat)

/-- The exponent at which `num / den` has a significand of 53 bits, or that of the smallest doubles if
this is lower. -/
def exponentOf (num den : Nat) : Int :=
  let guess : Int := Nat.log2 num - Nat.log2 den - 52
  let (n, d) := scaleByTwo num den (-guess)
  max (-1074) (if n / d < hiddenBit then guess - 1 else guess)

/-- The double nearest to a fraction, unless that is above all finite ones. -/
def ofFraction? (negative : Bool) (num den : Nat) : Option Binary64 :=
  let sign : Nat := if negative then 1 <<< 63 else 0
  if num = 0 then some ⟨UInt64.ofNat sign⟩
  else
    let q := exponentOf num den
    let (n, d) := scaleByTwo num den (-q)
    let m := roundedQuotient n d
    let (m, q) := if m = 2 * hiddenBit then (hiddenBit, q + 1) else (m, q)
    let exponent : Int := if m < hiddenBit then 0 else q + 1075
    if exponent < 2047 then
      some ⟨UInt64.ofNat (sign + exponent.toNat * hiddenBit + m % hiddenBit)⟩
    else none

/-- The double nearest to `digits · 10 ^ e`, unless that is above all finite ones. -/
def ofDecimal? (negative : Bool) (digits : Nat) (e : Int) : Option Binary64 :=
  if digits = 0 then ofFraction? negative 0 1
  else if e + decimalDigits digits > 400 then none
  else if e + decimalDigits digits < -400 then ofFraction? negative 0 1
  else
    let (n, d) := scaleByTen digits 1 e
    ofFraction? negative n d

/-- Whether the sign bit is set. -/
def isNegative (x : Binary64) : Bool := x.bits.toNat.testBit 63

/-- The exponent field. -/
def exponentField (x : Binary64) : Nat := x.bits.toNat / hiddenBit % 2048

/-- The fraction field. -/
def fractionField (x : Binary64) : Nat := x.bits.toNat % hiddenBit

/-- Whether the number is neither infinite nor NaN. -/
def isFinite (x : Binary64) : Bool := decide (x.exponentField < 2047)

/-- The magnitude `m · 2 ^ q` of a finite number. -/
def magnitude (x : Binary64) : Nat × Int :=
  if x.exponentField = 0 then (x.fractionField, -1074)
  else (hiddenBit + x.fractionField, x.exponentField - 1075)

/-- The largest power of ten that a positive fraction reaches. -/
def decimalExponent (num den : Nat) : Int :=
  if den ≤ num then decimalDigits (num / den) - 1 else -(decimalDigits ((den - 1) / num) : Int)

/-- Drops trailing zeros of the digits. -/
def dropZeros (fuel digits : Nat) (e : Int) : Nat × Int :=
  match fuel with
  | 0 => (digits, e)
  | fuel + 1 =>
    if digits % 10 = 0 ∧ digits ≠ 0 then dropZeros fuel (digits / 10) (e + 1) else (digits, e)

/-- The shortest decimal `digits · 10 ^ e` of a positive double that rounds back to it, and the
nearest of those; a tie goes to the even digit. -/
def shortest (x : Binary64) : Nat × Int :=
  let (m, q) := x.magnitude
  -- the double and the ends of its rounding interval, in quarters of the last place
  let value := 4 * m
  let low := if x.fractionField = 0 ∧ 1 < x.exponentField then value - 1 else value - 2
  let high := value + 2
  let t := let (n, d) := scaleByTwo value 1 (q - 2); decimalExponent n d
  -- a candidate and a bound in the same unit, to compare them
  let compareTo (digits : Nat) (e : Int) (bound : Nat) : Ordering :=
    let (n, d) := scaleByTen digits 1 e
    let (n', d') := scaleByTwo bound 1 (q - 2)
    compare (n * d') (n' * d)
  let inside (digits : Nat) (e : Int) : Bool :=
    if m % 2 = 0 then compareTo digits e low != .lt && compareTo digits e high != .gt
    else compareTo digits e low == .gt && compareTo digits e high == .lt
  let rec search : Nat → Nat → Nat × Int
    | 0, _ => (0, 0)
    | fuel + 1, count =>
      let e : Int := t - count + 1
      let (n, d) := let (n, d) := scaleByTwo value 1 (q - 2); scaleByTen n d (-e)
      let below := n / d
      match inside below e && decide (below ≠ 0), inside (below + 1) e with
      | true, false => dropZeros 20 below e
      | false, true => dropZeros 20 (below + 1) e
      | true, true => dropZeros 20 (roundedQuotient n d) e
      | false, false => search fuel (count + 1)
  search 20 1

/-- How a finite double is written: positionally when the decimal point falls among the digits or
at most four zeros before them or up to sixteen places after the first, always with a point or an
exponent, and with the exponent signed. -/
def text (x : Binary64) : String :=
  let sign := if x.isNegative then "-" else ""
  let (m, _) := x.magnitude
  if m = 0 then sign ++ "0.0"
  else
    let (digits, e) := x.shortest
    let ds := Nat.toDigits 10 digits
    let point : Int := ds.length + e
    let body : List Char :=
      if 0 ≤ e ∧ point ≤ 16 then ds ++ List.replicate e.toNat '0' ++ ['.', '0']
      else if 0 < point ∧ point ≤ 16 then
        ds.take point.toNat ++ '.' :: ds.drop point.toNat
      else if -5 < point ∧ point ≤ 0 then
        ['0', '.'] ++ List.replicate (-point).toNat '0' ++ ds
      else
        let mantissa := match ds with
          | [c] => [c]
          | c :: cs => c :: '.' :: cs
          | [] => []
        let exponent := point - 1
        mantissa ++ 'e' :: (if exponent < 0 then '-' else '+') :: Nat.toDigits 10 exponent.natAbs
    sign ++ String.ofList body

end Binary64

end MetadataTrust
