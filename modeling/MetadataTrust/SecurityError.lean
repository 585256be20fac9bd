/-!
What can be wrong with key material and signatures, and how it is put into words.
-/

namespace MetadataTrust

/-- A place where key material is found. -/
inductive KeyElement where
  | subjectPublicKeyInfo
  | x509Certificate
  | rsaKeyValue
  | publicKey
deriving DecidableEq, Repr

/-- The name of the place. -/
def KeyElement.name : KeyElement → String
  | .subjectPublicKeyInfo => "SubjectPublicKeyInfo"
  | .x509Certificate => "X509Certificate"
  | .rsaKeyValue => "RSAKeyValue"
  | .publicKey => "PublicKey"

/-- What is wrong with key material. -/
inductive KeyFault where
  /-- It cannot be decoded, or the key is not usable. -/
  | malformed
  /-- Octets follow the encoded key. -/
  | trailing (count : Nat)
deriving DecidableEq, Repr

/-- The fault in words. -/
def KeyFault.message : KeyFault → String
  | .malformed => "malformed encoding"
  | .trailing count => toString count ++ " trailing bytes"

/-- Why a signature is not accepted. -/
inductive SignatureFault where
  /-- The object has no signature. -/
  | unsigned
  /-- A profile asks for exactly one reference. -/
  | referenceCount (found : Nat)
  | noObjectId (uri : String)
  | objectIdMismatch (uri id : String)
  | transformNotPermitted (uri : String)
  | noReferences
  | noDigestValue (uri : String)
  | digestMismatch (uri : String)
  /-- The digest value does not occur in the signed octets. -/
  | digestNotCovered (uri : String)
  | noPublicKey
  | malformedValue
  | ed25519Mismatch
  | rsaMismatch
  /-- A reason of a validator from outside this library. -/
  | other (reason : String)
deriving DecidableEq, Repr

/-- The reason in words. -/
def SignatureFault.message : SignatureFault → String
  | .unsigned => "object carries no signature"
  | .referenceCount n => "expected exactly one reference, found " ++ toString n
  | .noObjectId uri => "reference " ++ uri ++ " but signed object has no ID"
  | .objectIdMismatch uri id => "reference " ++ uri ++ " does not match object ID " ++ id
  | .transformNotPermitted uri => "transform not permitted: " ++ uri
  | .noReferences => "signature has no references"
  | .noDigestValue uri => "reference " ++ uri ++ " carries no digest value"
  | .digestMismatch uri => "digest mismatch for reference " ++ uri
  | .digestNotCovered uri => "digest for reference " ++ uri ++ " is not covered by SignedInfo"
  | .noPublicKey => "credential carries no public key"
  | .malformedValue => "invalid signature bytes: wrong length"
  | .ed25519Mismatch => "ed25519 verification failed"
  | .rsaMismatch => "rsa verification failed"
  | .other reason => reason

/-- A failure of an operation on keys and signatures. -/
inductive SecurityError where
  | invalidKeyMaterial (element : KeyElement) (fault : KeyFault)
  /-- A signature or digest algorithm that is not known. -/
  | unsupportedAlgorithm (uri : String)
  /-- A key that does not go with the signature algorithm. -/
  | algorithmMismatch (key uri : String)
  | signatureInvalid (fault : SignatureFault)
deriving DecidableEq, Repr

/-- The failure in words. -/
def SecurityError.message : SecurityError → String
  | .invalidKeyMaterial element fault =>
    "invalid key material in " ++ element.name ++ ": " ++ fault.message
  | .unsupportedAlgorithm uri => "unsupported algorithm: " ++ uri
  | .algorithmMismatch key uri => "unsupported algorithm: " ++ key ++ " key for " ++ uri
  | .signatureInvalid fault => "signature verification failed: " ++ fault.message

end MetadataTrust
