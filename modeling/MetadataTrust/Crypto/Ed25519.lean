import MetadataTrust.Crypto.Modular
import MetadataTrust.Digest.Sha2

/-!
Ed25519 signature verification (RFC 8032).

The check is the cofactorless one: the encoding of `s B - k A` must be the octets of `R` in the
signature.  The scalar `s` must be reduced; the key may be of small order, and its ordinate may be
written unreduced.
-/

namespace MetadataTrust.Ed25519

/-- The order of the base field. -/
def p : Nat := (1 <<< 255) - 19

/-- The order of the base point. -/
def order : Nat := (1 <<< 252) + 27742317777372353535851937790883648493

instance : @NeZero Nat Zero.ofOfNat0 p := ⟨by decide⟩

/-- The base field. -/
abbrev Field := Fin p

/-- The field element of a number. -/
def Field.ofNat (n : Nat) : Field := Fin.ofNat p n

/-- A power of a field element. -/
def Field.pow (x : Field) (e : Nat) : Field := Field.ofNat (powMod x.val e p)

/-- The coefficient of the curve `-x² + y² = 1 + d x² y²`. -/
def d : Field :=
  Field.ofNat 37095705934669439343138083508754565189542113879843219016388785533085940283555

/-- A square root of minus one. -/
def sqrtMinusOne : Field :=
  Field.ofNat 19681161376707505956807079304988542015446066515923890162744021073123829784752

/-- A root of `u / v` with an even representative, if there is one; zero if `u` is zero. -/
def sqrtRatio? (u v : Field) : Option Field :=
  let v3 := v * v * v
  let r := u * v3 * Field.pow (u * v3 * v3 * v) ((p - 5) / 8)
  let root? : Option Field :=
    if v * r * r = u then some r
    else if v * r * r = -u then some (r * sqrtMinusOne)
    else none
  root?.map fun r => if r.val % 2 = 1 then -r else r

/-- A point in extended coordinates: `x = X/Z`, `y = Y/Z`, `x y = T/Z`. -/
structure Point where
  X : Field
  Y : Field
  Z : Field
  T : Field

namespace Point

/-- The neutral point. -/
def zero : Point := ⟨0, 1, 1, 0⟩

/-- The sum of two points; the formula is complete on this curve. -/
def add (P Q : Point) : Point :=
  let a := (P.Y - P.X) * (Q.Y - Q.X)
  let b := (P.Y + P.X) * (Q.Y + Q.X)
  let c := P.T * (d + d) * Q.T
  let e := P.Z * Q.Z + P.Z * Q.Z
  let f := b - a
  let g := e - c
  let h := e + c
  let i := b + a
  ⟨f * g, h * i, g * h, f * i⟩

/-- The point on the other side of the ordinate axis. -/
def neg (P : Point) : Point := ⟨-P.X, P.Y, P.Z, -P.T⟩

/-- The multiple of a point by a number. -/
def smul (n : Nat) (P : Point) : Point :=
  if n = 0 then zero
  else
    let half := smul (n / 2) (P.add P)
    if n % 2 = 1 then half.add P else half
termination_by n
decreasing_by omega

/-- The octets of a number, least significant first. -/
def littleEndian (n : Nat) : Octets := (Octets.ofNat 32 n).reverse

/-- The encoding of a point: its ordinate, with the parity of its abscissa in the top bit. -/
def encode (P : Point) : Octets :=
  let inverse := Field.pow P.Z (p - 2)
  let x := P.X * inverse
  let y := P.Y * inverse
  littleEndian (y.val + (x.val % 2) <<< 255)

/-- The point that 32 octets encode; a number above the field's order stands for its remainder. -/
def decode? (bs : Octets) : Option Point :=
  if bs.length = 32 then
    let n := Octets.toNatReversed bs
    let y := Field.ofNat (n % (1 <<< 255))
    (sqrtRatio? (y * y - 1) (d * y * y + 1)).map fun root =>
      let x := if n >>> 255 = 1 then -root else root
      ⟨x, y, 1, x * y⟩
  else none

/-- The base point, of ordinate 4/5. -/
def base : Point :=
  let x := Field.ofNat
    15112221349535400772501151409588531511454012693041857206046113283949847762202
  let y := Field.ofNat
    46316835694926478169428394003475163141307993866256225615783033603165251855960
  ⟨x, y, 1, x * y⟩

end Point

/-- Whether `signature`, 64 octets, is a signature on `message` by the key that `key` encodes. -/
def verifies (key message signature : Octets) : Bool :=
  match Point.decode? key with
  | none => false
  | some A =>
    let r := signature.take 32
    let s := Octets.toNatReversed (signature.drop 32)
    let k := Octets.toNatReversed (Sha2.sha512 (r ++ key ++ message)) % order
    decide (s < order) && ((Point.base.smul s).add (A.neg.smul k)).encode == r

end MetadataTrust.Ed25519
