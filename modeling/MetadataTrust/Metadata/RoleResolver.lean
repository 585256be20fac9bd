import MetadataTrust.KeyInfo.Resolver
import MetadataTrust.Metadata.Store

/-!
Resolving the roles of entities, and the credentials that roles publish.
-/

namespace MetadataTrust

/-- What is asked of roles. -/
structure RoleQuery where
  elementType : QName
  protocol : Option String := none
  /-- Leave out what has expired. -/
  requireValid : Bool := true
  now : Instant

namespace RoleQuery

/-- Whether an entity may contribute roles. -/
def admitsEntity (q : RoleQuery) (e : Entity) : Bool := !q.requireValid || e.isValidAt q.now

/-- Whether a role is asked for. -/
def admitsRole (q : RoleQuery) (r : Role) : Bool :=
  r.elementType.same q.elementType && q.protocol.all r.supports &&
    (!q.requireValid || r.isValidAt q.now)

/-- The roles that are asked for, entity by entity. -/
def select (q : RoleQuery) (entities : List Entity) : List Role :=
  (entities.filter q.admitsEntity).flatMap fun e => e.roles.filter q.admitsRole

end RoleQuery

/-- Resolves roles of a given element type, and a protocol if one is given. -/
def roleResolver (metadata : Resolver Entity) (requireValid : Bool) (now : Instant) :
    Resolver Role := fun c => do
  let elementType ← required .role c.role
  let entities ← metadata c
  return RoleQuery.select ⟨elementType, c.protocol, requireValid, now⟩ entities

/-- A role resolver as diagnostics show it. -/
def describeRoleResolver (metadataId : String) (requireValid : Bool) : String :=
  Text.record "PredicateRoleDescriptorResolver"
    [("metadata", Text.quoted metadataId), ("require_valid_metadata", toString requireValid)] false

/-! ### Credentials -/

/-- The usage under which a key descriptor is looked up. -/
def KeyDescriptor.lookupUsage (d : KeyDescriptor) (wanted : KeyUsage) : KeyUsage :=
  if d.usage = .unspecified then wanted else d.usage

/-- Stamps a credential with the entity that publishes it, and with the descriptor's usage if it has
none of its own. -/
def KeyDescriptor.stamp (d : KeyDescriptor) (entityId : String) (k : Credential) : Credential :=
  { k with
    entityId := some entityId
    usage := if k.usage = .unspecified then d.usage else k.usage }

/-- The credentials of a key descriptor. -/
def KeyDescriptor.credentials (d : KeyDescriptor) (keyInfo : Resolver Credential)
    (entityId : String) (wanted : KeyUsage) : Except ResolutionError (List Credential) := do
  let found ← keyInfo { keyInfo := some d.keyInfo, usage := some (d.lookupUsage wanted) }
  return found.map (d.stamp entityId)

/-- Resolves the credentials that the roles of one entity publish for a usage. -/
def publishedCredentialResolver (roles : Resolver Role) (keyInfo : Resolver Credential) :
    Resolver Credential := fun c => do
  let entityId ← required .entityId c.entityId
  let found ← roles c
  let descriptors :=
    (found.flatMap (·.keyDescriptors)).filter (·.usage.compatible c.wantedUsage)
  return (← descriptors.mapM (·.credentials keyInfo entityId c.wantedUsage)).flatten

end MetadataTrust
