import MetadataTrust.Credential
import MetadataTrust.Instant
import MetadataTrust.Namespaces
import MetadataTrust.QName
import MetadataTrust.Signature

/-!
Entities of a federation, and the roles that they play.
-/

namespace MetadataTrust

/-- Hints at a key that a role publishes. -/
structure KeyDescriptor where
  usage : KeyUsage := .unspecified
  keyInfo : KeyInfo
deriving DecidableEq, Repr, Inhabited

/-- Whether something with this expiry is still valid; without an expiry it always is. -/
def validAt (validUntil : Option Instant) (now : Instant) : Bool := validUntil.all (now < ·)

/-- A role that an entity plays. -/
structure Role where
  /-- The element type, which says what kind of role it is. -/
  elementType : QName
  id : Option String := none
  supportedProtocols : List String
  validUntil : Option Instant := none
  keyDescriptors : List KeyDescriptor := []
  signature : Option Signature := none
  namespaces : NamespaceTable := {}
  /-- The text that the role was serialized to, once it was. -/
  serialization : Option String := none
deriving DecidableEq

namespace Role

/-- Whether the role supports a protocol, spelled exactly so. -/
def supports (r : Role) (protocol : String) : Bool := protocol ∈ r.supportedProtocols

/-- Whether the role has not expired. -/
def isValidAt (r : Role) (now : Instant) : Bool := validAt r.validUntil now

/-- Appends a key descriptor. -/
def addKey (r : Role) (k : KeyDescriptor) : Role :=
  { r with keyDescriptors := r.keyDescriptors ++ [k] }

end Role

/-- A participant of a federation. -/
structure Entity where
  entityId : String
  id : Option String := none
  validUntil : Option Instant := none
  /-- The roles, in document order. -/
  roles : List Role := []
  signature : Option Signature := none
  namespaces : NamespaceTable := {}
  /-- The text that the entity was serialized to, once it was. -/
  serialization : Option String := none
deriving DecidableEq

namespace Entity

/-- Whether the entity has not expired. -/
def isValidAt (e : Entity) (now : Instant) : Bool := validAt e.validUntil now

/-- Appends a role. -/
def addRole (e : Entity) (r : Role) : Entity := { e with roles := e.roles ++ [r] }

end Entity

/-! ### What entities and roles have in common -/

/-- An object that can carry a signature over itself. -/
inductive Signable where
  | entity (e : Entity)
  | role (r : Role)

namespace Signable

/-- The identifier that a signature's reference points at. -/
def id? : Signable → Option String
  | .entity e => e.id
  | .role r => r.id

/-- The signature. -/
def signature? : Signable → Option Signature
  | .entity e => e.signature
  | .role r => r.signature

/-- The text that the object was serialized to. -/
def serialization? : Signable → Option String
  | .entity e => e.serialization
  | .role r => r.serialization

/-- The namespaces of the object. -/
def namespaces : Signable → NamespaceTable
  | .entity e => e.namespaces
  | .role r => r.namespaces

/-- The object with other namespaces. -/
def withNamespaces (t : NamespaceTable) : Signable → Signable
  | .entity e => .entity { e with namespaces := t }
  | .role r => .role { r with namespaces := t }

/-- The object with another signature, or none. -/
def withSignature (s : Option Signature) : Signable → Signable
  | .entity e => .entity { e with signature := s }
  | .role r => .role { r with signature := s }

/-- The object with the text that it was serialized to. -/
def withSerialization (text : String) : Signable → Signable
  | .entity e => .entity { e with serialization := some text }
  | .role r => .role { r with serialization := some text }

/-- Declares the namespaces that exclusive canonicalization would lose, and counts them.  Nothing is
declared once the object has been serialized, nor if its signature does not use exclusive
canonicalization. -/
def declareNamespaces (o : Signable) : Nat × Signable :=
  if o.serialization?.isNone && o.signature?.any (·.usesExclusive) then
    let (count, t) := o.namespaces.declareNonVisible
    (count, o.withNamespaces t)
  else (0, o)

end Signable

end MetadataTrust
