import MetadataTrust.Configuration
import MetadataTrust.Filter.SignatureValidation
import MetadataTrust.Filter.Trimming

/-!
The filters and resolvers that a configuration sets up.
-/

namespace MetadataTrust

/-- What filters need beside their settings. -/
structure FilterParts where
  /-- Where the credentials that may verify a signature come from. -/
  credentials : Resolver Credential
  validator : SignatureValidator := defaultValidator
  engines : EngineRegistry := .builtIn
  files : Files := .none

/-- The policy of a script, whose engine is `defaultEngine` unless it names one. -/
def ScriptSettings.compile (s : ScriptSettings) (parts : FilterParts) (defaultEngine : String) :
    Except MetadataError ScriptedPolicy := do
  let source ← s.source.mapError .config
  ScriptedPolicy.compile parts.files parts.engines (s.engine.getD defaultEngine) source
    (s.custom.getD .null)

/-- The filter of the given settings. -/
def FilterSettings.build (parts : FilterParts) (defaultEngine : String) :
    FilterSettings → Except MetadataError MetadataFilter
  | .signatureValidation requireSignature trustedNames script => do
    let policy ← script.mapM (·.compile parts defaultEngine)
    return SignatureValidation.filter {
      credentials := parts.credentials
      validator := parts.validator
      requireSignature := requireSignature
      trustedNames := .ofList trustedNames
      policy := policy.map (·.policy) }
  | .roleSelection retained dropRoleless => return RoleSelection.filter ⟨retained, dropRoleless⟩
  | .requiredExpiry none => return MetadataTrust.requiredExpiry none
  | .requiredExpiry (some n) =>
    match ValidityBound.ofSeconds? n with
    | some bound => return MetadataTrust.requiredExpiry (some bound)
    | none => throw (.config (.validityOutOfRange n))
  | .entityIds included excluded =>
    return EntityIdPredicate.filter ⟨.ofList included, .ofList excluded⟩

namespace Configuration

/-- The chain of the configured filters. -/
def chain (c : Configuration) (parts : FilterParts) : Except MetadataError FilterChain := do
  return ⟨← c.filters.mapM (·.build parts c.defaultEngine), c.abortOnFilterError⟩

/-- The configured providers of keys. -/
def keyProviders (c : Configuration) : List KeyInfoProvider := c.providers.map (·.provider)

/-- The resolver of whatever the configured providers extract. -/
def keyInfoResolver (c : Configuration) : Resolver Credential :=
  MetadataTrust.keyInfoResolver c.keyProviders

/-- The resolver of the entries of a store that the configured providers point at. -/
def localKeyInfoResolver (c : Configuration) (store : Resolver Credential) :
    Resolver Credential :=
  MetadataTrust.localKeyInfoResolver c.keyProviders store

end Configuration

end MetadataTrust
