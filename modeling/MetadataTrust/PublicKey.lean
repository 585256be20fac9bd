import MetadataTrust.Crypto.Ed25519
import MetadataTrust.Der.Certificate
import MetadataTrust.SecurityError
import MetadataTrust.Text.Quoted

/-!
Public keys, kept as they are encoded, and certificates.

Two public keys are the same key exactly when their encodings are the same octets.
-/

namespace MetadataTrust

/-- The algorithm that a key belongs to. -/
inductive KeyAlgorithm where
  | ed25519
  | rsa
  | dsa
  | ec
  /-- Any other, by its object identifier. -/
  | other (objectId : String)
deriving DecidableEq, Repr

namespace KeyAlgorithm

/-- The algorithm of an object identifier. -/
def ofObjectId (id : String) : KeyAlgorithm :=
  if id = "1.3.101.112" then .ed25519
  else if id = "1.2.840.113549.1.1.1" then .rsa
  else if id = "1.2.840.10040.4.1" then .dsa
  else if id = "1.2.840.10045.2.1" then .ec
  else .other id

/-- The algorithm's usual name, or its object identifier. -/
def text : KeyAlgorithm → String
  | .ed25519 => "Ed25519"
  | .rsa => "RSA"
  | .dsa => "DSA"
  | .ec => "EC"
  | .other id => id

/-- The algorithm as diagnostics show it. -/
def describe : KeyAlgorithm → String
  | .ed25519 => "Ed25519"
  | .rsa => "Rsa"
  | .dsa => "Dsa"
  | .ec => "Ec"
  | .other id => "Other(" ++ Text.quoted id ++ ")"

end KeyAlgorithm

/-- A short name for octets: the SHA-256 hash of them in hexadecimal. -/
def fingerprint (bs : Octets) : String := "sha256:" ++ Octets.toHex (Sha2.sha256 bs)

/-- The outline of a key whose encoding takes up all the octets. -/
def Der.PublicKeyInfo.whole? (bs : Octets) : Option PublicKeyInfo :=
  match PublicKeyInfo.read? bs with
  | some (info, []) => some info
  | _ => none

/-- An encoded public key. -/
structure PublicKey where
  /-- The encoding as a `SubjectPublicKeyInfo`. -/
  encoded : Octets
  readable : (Der.PublicKeyInfo.whole? encoded).isSome
deriving DecidableEq

namespace PublicKey

/-- The key that the octets encode. -/
def decode (bs : Octets) : Except SecurityError PublicKey :=
  if h : (Der.PublicKeyInfo.whole? bs).isSome then .ok ⟨bs, h⟩
  else
    match Der.PublicKeyInfo.read? bs with
    | some (_, rest) => .error (.invalidKeyMaterial .subjectPublicKeyInfo (.trailing rest.length))
    | none => .error (.invalidKeyMaterial .subjectPublicKeyInfo .malformed)

/-- The Ed25519 key of 32 octets, if they encode a point. -/
def ofEd25519? (raw : Octets) : Option PublicKey :=
  if (Ed25519.Point.decode? raw).isSome then (decode (Der.encodeEd25519Key raw)).toOption else none

/-- The algorithm that the encoding names. -/
def algorithm (k : PublicKey) : KeyAlgorithm :=
  .ofObjectId (Der.objectIdText ((Der.PublicKeyInfo.whole? k.encoded).get k.readable).algorithm)

/-- The key's fingerprint. -/
def fingerprint (k : PublicKey) : String := MetadataTrust.fingerprint k.encoded

/-- The key as diagnostics show it. -/
def describe (k : PublicKey) : String :=
  Text.record "PublicKey"
    [("algorithm", k.algorithm.describe), ("fingerprint", Text.quoted k.fingerprint)] false

end PublicKey

/-- An encoded certificate, which may turn out to be malformed. -/
structure X509Certificate where
  der : Octets
deriving DecidableEq, Repr, Inhabited

namespace X509Certificate

/-- The certificate's parts. -/
def read (c : X509Certificate) : Except SecurityError Der.Certificate :=
  match Der.Certificate.read? c.der with
  | some parts => .ok parts
  | none => .error (.invalidKeyMaterial .x509Certificate .malformed)

/-- The key of the subject. -/
def publicKey (c : X509Certificate) : Except SecurityError PublicKey := do
  PublicKey.decode (← c.read).keyInfo

/-- The common names of the subject, then its DNS names. -/
def subjectNames (c : X509Certificate) : Except SecurityError (List String) := do
  return (← c.read).names

/-- The certificate as diagnostics show it. -/
def describe (c : X509Certificate) : String :=
  Text.record "X509Certificate" [("fingerprint", Text.quoted (fingerprint c.der))] false

end X509Certificate

end MetadataTrust
