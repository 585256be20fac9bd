import MetadataTrust.Metadata.Form
import MetadataTrust.Metadata.Validation
import MetadataTrust.Yaml.Tree

/-!
Metadata documents: YAML lists of entities.
-/

namespace MetadataTrust

/-- The entities of a document, as they are written there. -/
def entitiesOfText? (document : String) : Option (List Entity) := do
  Tree.listOf? Entity.ofTree? (← Yaml.Node.read? (.list Entity.shape) document).tree

/-- The entities of a document, whose structure is checked. -/
def readEntities (document : String) : Except MetadataError (List Entity) := do
  match entitiesOfText? document with
  | none => throw (.config .malformedMetadata)
  | some entities =>
    validateDocument entities
    return entities

end MetadataTrust
