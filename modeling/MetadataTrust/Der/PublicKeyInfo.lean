import MetadataTrust.Der.Basic
import MetadataTrust.Crypto.Rsa

/-!
The `SubjectPublicKeyInfo` of RFC 5280.

`PublicKeyInfo.read?` only asks for the outline: an algorithm and a bit string.  The readers for
one algorithm's key, `ed25519Key?` and `rsaKey?`, ask for the canonical encoding throughout, and
`encodeRsaKey` writes what `rsaKey?` reads.
-/

namespace MetadataTrust.Der

/-- The outline of an encoded public key. -/
structure PublicKeyInfo where
  /-- The content octets of the algorithm's object identifier. -/
  algorithm : Octets
  /-- The octets of the key as far as they were read: anything in the outer sequence after the key
  is left out. -/
  encoded : Octets
deriving DecidableEq, Repr

/-- An algorithm identifier, for its object identifier; its parameters may be anything or absent. -/
def readAlgorithm? : Reader Octets :=
  readSequence? fun content => do
    let (oid, rest) ← readObjectId? content
    if rest = [] then return (oid, [])
    else
      let (_, rest) ← read? rest
      return (oid, rest)

/-- A public key. -/
def PublicKeyInfo.read? : Reader PublicKeyInfo := fun bs => do
  let ((oid, left), rest) ← readSequence? (fun content => do
    let (oid, more) ← readAlgorithm? content
    let (_, left) ← readBitString? more
    return ((oid, left), left)) bs
  return (⟨oid, bs.take (bs.length - rest.length - left.length)⟩, rest)

/-- The object identifier of RSA keys, 1.2.840.113549.1.1.1. -/
def rsaObjectId : Octets := [0x2A, 0x86, 0x48, 0x86, 0xF7, 0x0D, 0x01, 0x01, 0x01]

/-- The object identifier of Ed25519 keys, 1.3.101.112. -/
def ed25519ObjectId : Octets := [0x2B, 0x65, 0x70]

/-- The key octets of a canonical encoding whose algorithm identifier has the given content. -/
def keyOctets? (algorithm : Octets) (bs : Octets) : Option Octets := do
  let content ← readWhole? 0x30 bs
  let (found, rest) ← readCanonical? 0x30 content
  let bits ← readWhole? 0x03 rest
  match bits with
  | 0 :: key => if found = algorithm then some key else none
  | _ => none

/-- The 32 octets of an Ed25519 key; its algorithm has no parameters. -/
def ed25519Key? (bs : Octets) : Option Octets := do
  let key ← keyOctets? (encode 0x06 ed25519ObjectId) bs
  if key.length = 32 then some key else none

/-- The encoding of an Ed25519 key. -/
def encodeEd25519Key (key : Octets) : Octets :=
  encode 0x30 (encode 0x30 (encode 0x06 ed25519ObjectId) ++ encode 0x03 (0 :: key))

/-- The content of the algorithm identifier of an RSA key: its parameters are NULL. -/
def rsaAlgorithm : Octets := encode 0x06 rsaObjectId ++ encode 0x05 []

/-- The RSA key of an encoding, if the key is usable. -/
def rsaKey? (bs : Octets) : Option RsaKey := do
  let key ← keyOctets? rsaAlgorithm bs
  let numbers ← readWhole? 0x30 key
  let (modulus, rest) ← readCanonical? 0x02 numbers
  let exponent ← readWhole? 0x02 rest
  let k : RsaKey := ⟨← naturalContent? modulus, ← naturalContent? exponent⟩
  if k.Usable then some k else none

/-- The encoding of an RSA key. -/
def encodeRsaKey (k : RsaKey) : Octets :=
  encode 0x30 (encode 0x30 rsaAlgorithm ++
    encode 0x03 (0 :: encode 0x30
      (encode 0x02 (encodeNatural k.modulus) ++ encode 0x02 (encodeNatural k.exponent))))

end MetadataTrust.Der
