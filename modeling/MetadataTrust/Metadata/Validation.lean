import MetadataTrust.Metadata.Entity
import MetadataTrust.MetadataError
import MetadataTrust.Text.Blank

/-!
The structure that entities must have: an identifier that is not blank, and at least one protocol for
each role.  In a document no two entities may have the same identifier.
-/

namespace MetadataTrust

/-- The first thing that is wrong with an entity. -/
def Entity.structureFault? (e : Entity) : Option StructureFault :=
  if Text.isBlankText e.entityId then some .emptyEntityId
  else (e.roles.find? (·.supportedProtocols.isEmpty)).map fun r => .noProtocols r.elementType

/-- Checks the structure of an entity. -/
def Entity.validate (e : Entity) : Except MetadataError Unit :=
  match e.structureFault? with
  | some fault => .error (.invalidMetadata e.entityId fault)
  | none => .ok ()

/-- Checks entities in order; none may bear one of the identifiers in `seen` or that of one before. -/
def validateFrom (seen : List String) : List Entity → Except MetadataError Unit
  | [] => .ok ()
  | e :: more => do
    e.validate
    if e.entityId ∈ seen then throw (.invalidMetadata e.entityId .duplicateEntityId)
    validateFrom (e.entityId :: seen) more

/-- Checks the entities of a document. -/
def validateDocument (entities : List Entity) : Except MetadataError Unit :=
  validateFrom [] entities

end MetadataTrust
