import MetadataTrust.Octets
import MetadataTrust.Crypto.Modular

/-!
RSA public keys and the PKCS #1 v1.5 signature check of RFC 8017.

A key is usable when its modulus is odd, above the exponent and at most 4096 bits long, and its
exponent is odd and between 2 and 2^33 - 1.  A signature is checked by building the one padded
message that it must decrypt to.
-/

namespace MetadataTrust

/-- An RSA public key. -/
structure RsaKey where
  modulus : Nat
  exponent : Nat
deriving DecidableEq, Repr, Inhabited

namespace RsaKey

/-- The conditions on a key that is used. -/
def Usable (k : RsaKey) : Prop :=
  k.modulus < 1 <<< 4096 ∧ k.exponent < k.modulus ∧ k.modulus % 2 = 1 ∧ k.exponent % 2 = 1 ∧
    2 ≤ k.exponent ∧ k.exponent < 1 <<< 33

instance (k : RsaKey) : Decidable k.Usable := by unfold Usable; infer_instance

/-- The key of a modulus and an exponent written most significant octet first, if it is usable. -/
def ofOctets? (modulus exponent : Octets) : Option RsaKey :=
  let k : RsaKey := ⟨Octets.toNat modulus, Octets.toNat exponent⟩
  if k.Usable then some k else none

/-- The number of octets of the modulus. -/
def size (k : RsaKey) : Nat := Octets.width k.modulus

/-- The padded message of `size` octets for a digest that `info` announces; the padding takes at
least eleven octets. -/
def paddedDigest? (size : Nat) (info digest : Octets) : Option Octets :=
  let t := info ++ digest
  if size < t.length + 11 then none
  else some (0x00 :: 0x01 :: List.replicate (size - t.length - 3) 0xFF ++ 0x00 :: t)

/-- Whether `signature` is a PKCS #1 v1.5 signature on a message with this digest. -/
def verifies (k : RsaKey) (info digest signature : Octets) : Bool :=
  let s := Octets.toNat signature
  signature.length == k.size && decide (s < k.modulus) &&
    paddedDigest? k.size info digest ==
      some (Octets.ofNat k.size (powMod s k.exponent k.modulus))

end RsaKey

/-- The start of a DER `DigestInfo` for SHA-1, up to the digest. -/
def sha1DigestInfo : Octets :=
  [0x30, 0x21, 0x30, 0x09, 0x06, 0x05, 0x2B, 0x0E, 0x03, 0x02, 0x1A, 0x05, 0x00, 0x04, 0x14]

/-- The start of a DER `DigestInfo` for SHA-256, up to the digest. -/
def sha256DigestInfo : Octets :=
  [0x30, 0x31, 0x30, 0x0D, 0x06, 0x09, 0x60, 0x86, 0x48, 0x01, 0x65, 0x03, 0x04, 0x02, 0x01, 0x05,
    0x00, 0x04, 0x20]

/-- The start of a DER `DigestInfo` for SHA-512, up to the digest. -/
def sha512DigestInfo : Octets :=
  [0x30, 0x51, 0x30, 0x0D, 0x06, 0x09, 0x60, 0x86, 0x48, 0x01, 0x65, 0x03, 0x04, 0x02, 0x03, 0x05,
    0x00, 0x04, 0x40]

end MetadataTrust
