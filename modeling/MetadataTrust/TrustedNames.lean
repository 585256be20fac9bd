import MetadataTrust.Files
import MetadataTrust.Metadata.Form
import MetadataTrust.Script.Engine

/-!
Policies that say which signers are trusted for an object.

A policy computes names from the signed object; it may fail to.  A scripted policy evaluates a script
over the object and over data of the deployment.
-/

namespace MetadataTrust

/-- A signed object that a policy judges; a role comes with the entity that it belongs to. -/
inductive SignedObject where
  | entity (e : Entity)
  | role (owner : Entity) (r : Role)

namespace SignedObject

/-- The entity that the object is or belongs to. -/
def owner : SignedObject → Entity
  | .entity e => e
  | .role e _ => e

/-- The object as something that carries a signature. -/
def signable : SignedObject → Signable
  | .entity e => .entity e
  | .role _ r => .role r

/-- The form of the object; a role's also tells the identifier of its entity. -/
def form : SignedObject → Json
  | .entity e => e.form
  | .role e r => .object (Json.setMember "entity_id" (.string e.entityId) r.members)

end SignedObject

/-- A policy: the names of the signers that are trusted for an object, if they can be computed. -/
abbrev TrustPolicy := SignedObject → Option NameSet

/-! ### Scripts -/

/-- Where a script is found. -/
inductive ScriptSource where
  | inline (text : String)
  | file (path : String)
deriving DecidableEq, Repr

/-- The text of the script. -/
def ScriptSource.load (files : Files) : ScriptSource → Except ConfigFault String
  | .inline text => .ok text
  | .file path => match files.text? path with
    | some text => .ok text
    | none => .error (.unreadableScript path)

/-- The name in a result, which must be a text. -/
def nameOfValue : Json → Except ScriptFault String
  | .string name => .ok name
  | value => .error (.notName value)

/-- The names in one result: a text is a name, a list holds names, and null holds none. -/
def namesOfValue : Json → Except ScriptFault (List String)
  | .null => .ok []
  | .array items => items.mapM nameOfValue
  | value => do return [← nameOfValue value]

/-- The names in all results. -/
def namesOfResults : Json → Except ScriptFault NameSet
  | .array results => do return .ofList (← results.mapM namesOfValue).flatten
  | _ => .error .resultNotList

/-- A policy given by a script. -/
structure ScriptedPolicy where
  /-- The name of the script's engine. -/
  engine : String
  script : Script
  /-- Data of the deployment, for the script to use. -/
  custom : Json := .null

namespace ScriptedPolicy

/-- Compiles a script with the engine of a name.  That the engine exists is checked first. -/
def compile (files : Files) (engines : EngineRegistry) (engine : String) (source : ScriptSource)
    (custom : Json) : Except MetadataError ScriptedPolicy :=
  match engines.get? engine with
  | none => .error (.config (.unknownEngine engine))
  | some e => do
    let text ← (source.load files).mapError .config
    let script ← (e.compile text).mapError (.script engine)
    return { engine := engine, script := script, custom := custom }

/-- What the script sees: the data of the deployment and the object. -/
def scope (p : ScriptedPolicy) (o : SignedObject) : Json :=
  .object [("custom", p.custom), ("context", o.form)]

/-- The names that the script computes for an object. -/
def evaluate (p : ScriptedPolicy) (o : SignedObject) : Except MetadataError NameSet :=
  (do namesOfResults (← p.script (p.scope o))).mapError (.script p.engine)

/-- The script as a policy: a script that fails computes no names. -/
def policy (p : ScriptedPolicy) : TrustPolicy := fun o => (p.evaluate o).toOption

end ScriptedPolicy

end MetadataTrust
