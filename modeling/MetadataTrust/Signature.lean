import MetadataTrust.Base64
import MetadataTrust.Digest.Sha1
import MetadataTrust.Digest.Sha2
import MetadataTrust.KeyInfo
import MetadataTrust.SecurityError

/-!
XML signatures, as they stand after parsing and canonicalization.

A signature carries the canonical octets that its value signs, and references that tie the content
of the signed element to those octets by digests.
-/

namespace MetadataTrust

/-! ### Algorithms -/

/-- Exclusive canonicalization without comments. -/
def exclusiveC14n : String := "http://www.w3.org/2001/10/xml-exc-c14n#"

/-- Exclusive canonicalization with comments. -/
def exclusiveC14nWithComments : String := "http://www.w3.org/2001/10/xml-exc-c14n#WithComments"

/-- The transform that takes the signature itself out of the content. -/
def envelopedSignature : String := "http://www.w3.org/2000/09/xmldsig#enveloped-signature"

/-- Whether a URI names exclusive canonicalization. -/
def isExclusive (uri : String) : Bool := uri = exclusiveC14n || uri = exclusiveC14nWithComments

/-- The digest algorithms. -/
inductive DigestAlgorithm where
  | sha1
  | sha256
  | sha384
  | sha512
deriving DecidableEq, Repr

namespace DigestAlgorithm

/-- The URI of an algorithm. -/
def uri : DigestAlgorithm → String
  | .sha1 => "http://www.w3.org/2000/09/xmldsig#sha1"
  | .sha256 => "http://www.w3.org/2001/04/xmlenc#sha256"
  | .sha384 => "http://www.w3.org/2001/04/xmldsig-more#sha384"
  | .sha512 => "http://www.w3.org/2001/04/xmlenc#sha512"

/-- The algorithm of a URI. -/
def ofUri? (u : String) : Option DigestAlgorithm :=
  [sha1, sha256, sha384, sha512].find? (·.uri = u)

/-- The digest of a content. -/
def hash : DigestAlgorithm → Octets → Octets
  | .sha1 => Sha1.sha1
  | .sha256 => Sha2.sha256
  | .sha384 => Sha2.sha384
  | .sha512 => Sha2.sha512

end DigestAlgorithm

/-- The digest of a content by the algorithm of a URI. -/
def digest (uri : String) (content : Octets) : Except SecurityError Octets :=
  match DigestAlgorithm.ofUri? uri with
  | some a => .ok (a.hash content)
  | none => .error (.unsupportedAlgorithm uri)

/-! ### References -/

/-- What was signed, and how it was transformed and digested. -/
structure ContentReference where
  /-- Empty for the whole document, or `#` with the identifier of an element. -/
  uri : String := ""
  /-- The URIs of the transforms, in order. -/
  transforms : List String := []
  digestAlgorithm : String := DigestAlgorithm.sha256.uri
  digestValue : Octets := []
deriving DecidableEq, Repr, Inhabited

namespace ContentReference

/-- The usual reference to the element with an identifier, without a digest. -/
def enveloped (id : String) : ContentReference :=
  { uri := "#" ++ id, transforms := [envelopedSignature, exclusiveC14n] }

/-- The reference with the digest of a content. -/
def withDigestOf (r : ContentReference) (content : Octets) :
    Except SecurityError ContentReference := do
  return { r with digestValue := ← digest r.digestAlgorithm content }

/-- Whether one of the transforms is exclusive canonicalization. -/
def hasExclusiveTransform (r : ContentReference) : Bool := r.transforms.any isExclusive

/-- Checks that the digest is that of the content. -/
def verifyDigest (r : ContentReference) (content : Octets) : Except SecurityError Unit := do
  if r.digestValue = [] then throw (.signatureInvalid (.noDigestValue r.uri))
  if (← digest r.digestAlgorithm content) ≠ r.digestValue then
    throw (.signatureInvalid (.digestMismatch r.uri))

/-- The octets that stand in the signed octets when they cover the reference's digest. -/
def coverage (r : ContentReference) : Octets :=
  Octets.ofText ("DigestValue>" ++ Base64.encode r.digestValue ++ "<")

/-- Checks that the content has the digest and that the signed octets cover it. -/
def verify (r : ContentReference) (signedInfo content : Octets) : Except SecurityError Unit := do
  r.verifyDigest content
  if !Octets.contains r.coverage signedInfo then
    throw (.signatureInvalid (.digestNotCovered r.uri))

end ContentReference

/-! ### Signatures -/

/-- An enveloped signature. -/
structure Signature where
  /-- The URI of the signature algorithm. -/
  algorithm : String
  canonicalization : String := exclusiveC14n
  /-- The canonical octets that the value signs. -/
  signedInfo : Octets
  value : Octets
  keyInfo : Option KeyInfo := none
  references : List ContentReference := []
deriving DecidableEq, Repr, Inhabited

namespace Signature

/-- Whether some reference uses exclusive canonicalization. -/
def usesExclusive (s : Signature) : Bool := s.references.any (·.hasExclusiveTransform)

/-- Checks every reference against the content; there must be one. -/
def verifyReferences (s : Signature) (content : Octets) : Except SecurityError Unit := do
  if s.references = [] then throw (.signatureInvalid .noReferences)
  s.references.forM fun r => r.verify s.signedInfo content

end Signature

end MetadataTrust
