import MetadataTrust.Json.Canonical
import MetadataTrust.Metadata.Entity
import MetadataTrust.Signature.Form

/-!
The serialized form of entities and roles, and the canonical content that their signatures cover.

Namespaces and cached texts are not serialized.
-/

namespace MetadataTrust

namespace QName

/-- The form of a name. -/
def form (n : QName) : Json :=
  .object ([("namespace_uri", .string n.namespaceUri), ("local_part", .string n.localPart)] ++
    optionalMember "prefix" .string n.nsPrefix)

/-- The parts of the form of a name. -/
def shape : Shape := .members ["namespace_uri", "local_part", "prefix"]

/-- The name of a form. -/
def ofTree? (t : Tree) : Option QName := do
  match ← t.members? ["namespace_uri", "local_part", "prefix"] false with
  | [uri, localPart, nsPrefix] =>
    return ⟨← Tree.needed? Tree.text? uri, ← Tree.needed? Tree.text? localPart,
      ← Tree.optional? Tree.text? nsPrefix⟩
  | _ => none

end QName

/-- The form of a moment. -/
def Instant.form (t : Instant) : Json := .string t.text

/-- The moment of a form. -/
def Instant.ofTree? (t : Tree) : Option Instant := do Instant.parse? (← t.text?)

namespace KeyDescriptor

/-- The form of a key descriptor. -/
def form (k : KeyDescriptor) : Json :=
  .object [("usage", k.usage.form), ("key_info", k.keyInfo.form)]

/-- The parts of the form of a key descriptor. -/
def shape : Shape := .record [("usage", .whole), ("key_info", KeyInfo.shape)]

/-- The key descriptor of a form. -/
def ofTree? (t : Tree) : Option KeyDescriptor := do
  match ← t.members? ["usage", "key_info"] false with
  | [usage, keyInfo] =>
    return ⟨← Tree.orDefault? .unspecified KeyUsage.ofTree? usage,
      ← Tree.needed? KeyInfo.ofTree? keyInfo⟩
  | _ => none

end KeyDescriptor

namespace Role

/-- The members of the form of a role, in order. -/
def members (r : Role) : List (String × Json) :=
  [("element_type", r.elementType.form)] ++
    optionalMember "id" .string r.id ++
    [("supported_protocols", textsForm r.supportedProtocols)] ++
    optionalMember "valid_until" Instant.form r.validUntil ++
    [("key_descriptors", .array (r.keyDescriptors.map KeyDescriptor.form))] ++
    optionalMember "signature" Signature.form r.signature

/-- The form of a role. -/
def form (r : Role) : Json := .object r.members

/-- The names of the members of a role. -/
def memberNames : List String :=
  ["element_type", "id", "supported_protocols", "valid_until", "key_descriptors", "signature"]

/-- The parts of the form of a role. -/
def shape : Shape := .record [
  ("element_type", QName.shape),
  ("id", .whole),
  ("supported_protocols", .whole),
  ("valid_until", .whole),
  ("key_descriptors", .list KeyDescriptor.shape),
  ("signature", Signature.shape)]

/-- The role of a form. -/
def ofTree? (t : Tree) : Option Role := do
  match ← t.members? memberNames false with
  | [elementType, id, protocols, validUntil, keys, signature] =>
    return {
      elementType := ← Tree.needed? QName.ofTree? elementType
      id := ← Tree.optional? Tree.text? id
      supportedProtocols := ← Tree.needed? (Tree.listOf? Tree.text?) protocols
      validUntil := ← Tree.optional? Instant.ofTree? validUntil
      keyDescriptors := ← Tree.orDefault? [] (Tree.listOf? KeyDescriptor.ofTree?) keys
      signature := ← Tree.optional? Signature.ofTree? signature }
  | _ => none

end Role

namespace Entity

/-- The members of the form of an entity, in order. -/
def members (e : Entity) : List (String × Json) :=
  [("entity_id", .string e.entityId)] ++
    optionalMember "id" .string e.id ++
    optionalMember "valid_until" Instant.form e.validUntil ++
    [("roles", .array (e.roles.map Role.form))] ++
    optionalMember "signature" Signature.form e.signature

/-- The form of an entity. -/
def form (e : Entity) : Json := .object e.members

/-- The parts of the form of an entity. -/
def shape : Shape := .record [
  ("entity_id", .whole),
  ("id", .whole),
  ("valid_until", .whole),
  ("roles", .list Role.shape),
  ("signature", Signature.shape)]

/-- The entity of a form. -/
def ofTree? (t : Tree) : Option Entity := do
  match ← t.members? ["entity_id", "id", "valid_until", "roles", "signature"] false with
  | [entityId, id, validUntil, roles, signature] =>
    return {
      entityId := ← Tree.needed? Tree.text? entityId
      id := ← Tree.optional? Tree.text? id
      validUntil := ← Tree.optional? Instant.ofTree? validUntil
      roles := ← Tree.orDefault? [] (Tree.listOf? Role.ofTree?) roles
      signature := ← Tree.optional? Signature.ofTree? signature }
  | _ => none

end Entity

namespace Signable

/-- The form of the object. -/
def form : Signable → Json
  | .entity e => e.form
  | .role r => r.form

/-- The octets that a signature on the object covers: the canonical JSON text of the object without
its own signature.  Signatures of objects inside stay. -/
def canonicalContent (o : Signable) : Octets := (o.withSignature none).form.canonical

end Signable

end MetadataTrust
