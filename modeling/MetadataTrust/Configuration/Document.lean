import MetadataTrust.Configuration
import MetadataTrust.Files
import MetadataTrust.Metadata.Form
import MetadataTrust.Yaml.Tree

/-!
Configuration documents: YAML records of the options.

The options of the configuration itself are read in the form that is known for each.  The settings of a
filter depend on its kind, so there every scalar is taken for the value that it stands for: a trusted name
`123` must be quoted.
-/

namespace MetadataTrust

/-- The options of a script. -/
def ScriptSettings.optionNames : List String := ["inline", "file", "engine", "custom"]

/-- The settings of a script. -/
def ScriptSettings.ofTree? (t : Tree) : Option ScriptSettings := do
  match ← t.members? optionNames true with
  | [inline, file, engine, custom] =>
    return {
      inline := ← Tree.optional? Tree.text? inline
      file := ← Tree.optional? Tree.text? file
      engine := ← Tree.optional? Tree.text? engine
      custom := ← Tree.optional? Tree.json? custom }
  | _ => none

namespace FilterSettings

/-- The options of a filter of the given kind, beside the kind. -/
def optionNames : String → List String
  | "signature_validation" => ["require_signature", "trusted_names", "trusted_names_script"]
  | "entity_role" => ["retained_roles", "remove_roleless_entities"]
  | "required_valid_until" => ["max_validity_secs"]
  | "entity_id_predicate" => ["include", "exclude"]
  | _ => []

/-- The settings of a filter of the given kind. -/
def ofTree? (kind : String) (t : Tree) : Option FilterSettings := do
  let texts := Tree.listOf? Tree.text?
  match kind, ← t.members? (optionNames kind) false with
  | "signature_validation", [requireSignature, names, script] =>
    return .signatureValidation (← Tree.orDefault? false Tree.bool? requireSignature)
      (← Tree.orDefault? [] texts names) (← Tree.optional? ScriptSettings.ofTree? script)
  | "entity_role", [retained, dropRoleless] =>
    return .roleSelection (← Tree.needed? (Tree.listOf? QName.ofTree?) retained)
      (← Tree.orDefault? true Tree.bool? dropRoleless)
  | "required_valid_until", [maxSeconds] =>
    return .requiredExpiry (← Tree.optional? Tree.int64? maxSeconds)
  | "entity_id_predicate", [included, excluded] =>
    return .entityIds (← Tree.orDefault? [] texts included) (← Tree.orDefault? [] texts excluded)
  | _, _ => none

/-- The members of a filter by their names. -/
def named? (members : List (Yaml.Node × Yaml.Node)) : Option (List (MemberName × Yaml.Node)) :=
  members.mapM fun (k, v) => do return (← k.typedMemberName?, v)

/-- The values of members that have names. -/
def valued? (members : List (MemberName × Yaml.Node)) : Option (List (MemberName × Tree)) :=
  members.mapM fun (name, v) => do return (name, ← v.typed?)

/-- Takes the kind out of the members of a filter; it must be there exactly once. -/
def splitKind? : List (MemberName × Yaml.Node) → Option (Yaml.Node × List (MemberName × Yaml.Node))
  | [] => none
  | (.text "type", kind) :: more =>
    if more.any (·.1 = .text "type") then none else some (kind, more)
  | member :: more => do
    let (kind, rest) ← splitKind? more
    return (kind, member :: rest)

/-- The settings of a filter.  The kind is a member of its own, or comes first if the settings are given
by position; a local tag is no kind. -/
def ofNode? : Yaml.Node → Option FilterSettings
  | .mapping tag members => do
    if (Yaml.Tag.localName? tag).isSome then none
    let (kind, rest) ← splitKind? (← named? members)
    let members ← valued? rest
    ofTree? (← kind.text?) (.mapping members)
  | .sequence tag (kind :: rest) => do
    if (Yaml.Tag.localName? tag).isSome then none
    ofTree? (← kind.text?) (.sequence true (← Yaml.Node.typedItems? rest))
  | .sequence _ [] | .scalar .. => none

end FilterSettings

/-- A provider by its name; the name may also be a tag without content. -/
def ProviderKind.ofTree? : Tree → Option ProviderKind
  | .marked name inner => if Tree.isNothing (some inner) then ofName? name else none
  | t => do ofName? (← t.text?)

namespace Configuration

/-- The names of the options. -/
def memberNames : List String :=
  ["abort_on_filter_error", "default_script_engine", "provider_chain", "filters"]

/-- An option, if it is given. -/
def optionOr? {α : Type} (default : α) (read : Yaml.Node → Option α) :
    Option Yaml.Node → Option α
  | some n => read n
  | none => some default

/-- The filters of the option of that name. -/
def filters? (n : Yaml.Node) : Option (List FilterSettings) := do
  (← n.items?).mapM FilterSettings.ofNode?

/-- The configuration of options in their places. -/
def ofPlaces? : List (Option Yaml.Node) → Option Configuration
  | [abort, engine, providers, filters] => do
    let preset : Configuration := {}
    return {
      abortOnFilterError := ← optionOr? preset.abortOnFilterError (·.tree.bool?) abort
      defaultEngine := ← optionOr? preset.defaultEngine Yaml.Node.text? engine
      providers :=
        ← optionOr? preset.providers (fun v => v.tree.listOf? ProviderKind.ofTree?) providers
      filters := ← optionOr? preset.filters filters? filters }
  | _ => none

/-- The configuration of a record of options; an empty document sets none. -/
def ofNode? (n : Yaml.Node) : Option Configuration := do
  let members ← match n with
    | .mapping _ members => some (members.map fun (k, v) => (k.memberName, v))
    | .scalar _ .plain "" => some []
    | .scalar .. | .sequence .. => none
  ofPlaces? (← Tree.placed? memberNames true members)

/-- The configuration that a document writes down. -/
def ofText? (document : String) : Option Configuration := do ofNode? (← Yaml.Node.parse? document)

/-- The configuration of a document, which is checked. -/
def ofDocument (document : String) : Except MetadataError Configuration := do
  match ofText? document with
  | none => throw (.config .malformed)
  | some c =>
    c.validate
    return c

/-- The configuration of a file. -/
def ofFile (files : Files) (path : String) : Except MetadataError Configuration :=
  match files.text? path with
  | some document => ofDocument document
  | none => .error (.config (.unreadableFile path))

/-- The configuration of a deployment: that of its file, or else the default one, with its own choice
of the engine. -/
def ofDeployment (files : Files) (path engine : Option String) :
    Except MetadataError Configuration := do
  let c ← match path with
    | some path => ofFile files path
    | none => .ok {}
  return c.withEngine engine

end Configuration

end MetadataTrust
