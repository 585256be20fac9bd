import MetadataTrust.Configuration
import MetadataTrust.Metadata.Form

/-!
The serialized form of a configuration.  Absent options are left out, and defaults are written.
-/

namespace MetadataTrust

/-- The form of the settings of a script. -/
def ScriptSettings.form (s : ScriptSettings) : Json :=
  .object (optionalMember "inline" .string s.inline ++ optionalMember "file" .string s.file ++
    optionalMember "engine" .string s.engine ++ optionalMember "custom" id s.custom)

namespace FilterSettings

/-- The name of the kind of a filter. -/
def kind : FilterSettings → String
  | .signatureValidation .. => "signature_validation"
  | .roleSelection .. => "entity_role"
  | .requiredExpiry _ => "required_valid_until"
  | .entityIds .. => "entity_id_predicate"

/-- The members of the form beside the kind. -/
def members : FilterSettings → List (String × Json)
  | .signatureValidation requireSignature trustedNames script =>
    [("require_signature", .bool requireSignature), ("trusted_names", textsForm trustedNames)] ++
      optionalMember "trusted_names_script" ScriptSettings.form script
  | .roleSelection retained dropRoleless =>
    [("retained_roles", .array (retained.map QName.form)),
      ("remove_roleless_entities", .bool dropRoleless)]
  | .requiredExpiry maxSeconds => optionalMember "max_validity_secs" .integer maxSeconds
  | .entityIds included excluded =>
    [("include", textsForm included), ("exclude", textsForm excluded)]

/-- The form of the settings of a filter. -/
def form (f : FilterSettings) : Json := .object (("type", .string f.kind) :: f.members)

end FilterSettings

namespace Configuration

/-- The form of a configuration. -/
def form (c : Configuration) : Json :=
  .object [
    ("abort_on_filter_error", .bool c.abortOnFilterError),
    ("default_script_engine", .string c.defaultEngine),
    ("provider_chain", textsForm (c.providers.map (·.name))),
    ("filters", .array (c.filters.map FilterSettings.form))]

end Configuration

end MetadataTrust
