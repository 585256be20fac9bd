import MetadataTrust.Credential
import MetadataTrust.Signature

/-!
Checking a signature with the key of one credential.

Whether the credential deserves trust is for the caller to say.
-/

namespace MetadataTrust

/-- A way to check signatures. -/
structure SignatureValidator where
  /-- Checks the signature value over the signed octets. -/
  validate : Signature → Credential → Except SecurityError Unit
  /-- Checks also that the signed octets cover the content. -/
  validateContent : Signature → Octets → Credential → Except SecurityError Unit :=
    fun signature content credential => do
      signature.verifyReferences content
      validate signature credential

/-- The signature algorithms. -/
inductive SignatureAlgorithm where
  | ed25519
  | rsaSha1
  | rsaSha256
  | rsaSha512
deriving DecidableEq, Repr

namespace SignatureAlgorithm

/-- The URI of an algorithm. -/
def uri : SignatureAlgorithm → String
  | .ed25519 => "http://www.w3.org/2021/04/xmldsig-more#eddsa-ed25519"
  | .rsaSha1 => "http://www.w3.org/2000/09/xmldsig#rsa-sha1"
  | .rsaSha256 => "http://www.w3.org/2001/04/xmldsig-more#rsa-sha256"
  | .rsaSha512 => "http://www.w3.org/2001/04/xmldsig-more#rsa-sha512"

/-- The algorithm of a URI. -/
def ofUri? (u : String) : Option SignatureAlgorithm :=
  [ed25519, rsaSha1, rsaSha256, rsaSha512].find? (·.uri = u)

/-- The algorithm of the keys that it takes. -/
def keyAlgorithm : SignatureAlgorithm → KeyAlgorithm
  | .ed25519 => .ed25519
  | .rsaSha1 | .rsaSha256 | .rsaSha512 => .rsa

end SignatureAlgorithm

/-- Checks an Ed25519 signature value with an encoded key. -/
def verifyEd25519 (encodedKey message value : Octets) : Except SecurityError Unit :=
  match Der.ed25519Key? encodedKey with
  | none => .error (.invalidKeyMaterial .publicKey .malformed)
  | some key =>
    if (Ed25519.Point.decode? key).isNone then
      .error (.invalidKeyMaterial .publicKey .malformed)
    else if value.length ≠ 64 then .error (.signatureInvalid .malformedValue)
    else if Ed25519.verifies key message value then .ok ()
    else .error (.signatureInvalid .ed25519Mismatch)

/-- Checks an RSA signature value with an encoded key. -/
def verifyRsa (info digest encodedKey value : Octets) : Except SecurityError Unit :=
  match Der.rsaKey? encodedKey with
  | none => .error (.invalidKeyMaterial .publicKey .malformed)
  | some key =>
    if key.verifies info digest value then .ok () else .error (.signatureInvalid .rsaMismatch)

/-- Checks a signature value with a key of the right algorithm. -/
def SignatureAlgorithm.verify (a : SignatureAlgorithm) (key : PublicKey)
    (message value : Octets) : Except SecurityError Unit :=
  match a with
  | .ed25519 => verifyEd25519 key.encoded message value
  | .rsaSha1 => verifyRsa sha1DigestInfo (Sha1.sha1 message) key.encoded value
  | .rsaSha256 => verifyRsa sha256DigestInfo (Sha2.sha256 message) key.encoded value
  | .rsaSha512 => verifyRsa sha512DigestInfo (Sha2.sha512 message) key.encoded value

/-- Checks an Ed25519 or RSA signature value: the algorithm must be known, then there must be a key,
then the key must be of the algorithm's kind. -/
def validateSignature (s : Signature) (k : Credential) : Except SecurityError Unit :=
  match SignatureAlgorithm.ofUri? s.algorithm with
  | none => .error (.unsupportedAlgorithm s.algorithm)
  | some a =>
    match k.publicKey with
    | none => .error (.signatureInvalid .noPublicKey)
    | some key =>
      if key.algorithm ≠ a.keyAlgorithm then
        .error (.algorithmMismatch key.algorithm.text s.algorithm)
      else a.verify key s.signedInfo s.value

/-- The validator for Ed25519 and RSA signatures. -/
def defaultValidator : SignatureValidator := { validate := validateSignature }

end MetadataTrust
