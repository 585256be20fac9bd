import MetadataTrust.KeyInfo.Resolver
import MetadataTrust.MetadataError
import MetadataTrust.QName
import MetadataTrust.Script.Engine
import MetadataTrust.Text.Blank
import MetadataTrust.TrustedNames

/-!
The configuration of the trust in metadata: how keys are extracted, which filters metadata pass, and what
happens when one of them fails.
-/

namespace MetadataTrust

/-- The settings of a trusted-names script. -/
structure ScriptSettings where
  /-- The script itself. -/
  inline : Option String := none
  /-- The name of the file that holds the script. -/
  file : Option String := none
  /-- The name of the engine, unless it is the default one. -/
  engine : Option String := none
  /-- Data of the deployment, for the script to use. -/
  custom : Option Json := none
deriving DecidableEq

/-- Where the script is found; exactly one place must be given. -/
def ScriptSettings.source (s : ScriptSettings) : Except ConfigFault ScriptSource :=
  match s.inline, s.file with
  | some text, none => .ok (.inline text)
  | none, some path => .ok (.file path)
  | none, none | some _, some _ => .error .scriptSource

/-- The settings of a filter. -/
inductive FilterSettings where
  /-- Verifies signatures.  The names are the trusted signers, unless the script computes others. -/
  | signatureValidation (requireSignature : Bool) (trustedNames : List String)
      (script : Option ScriptSettings)
  /-- Keeps the roles of the given types. -/
  | roleSelection (retained : List QName) (dropRoleless : Bool)
  /-- Asks for an expiry, which may lie at most so many seconds ahead. -/
  | requiredExpiry (maxSeconds : Option Int)
  /-- Looks at the identifiers of entities. -/
  | entityIds (included excluded : List String)
deriving DecidableEq

/-- What is wrong with the settings of a filter. -/
def FilterSettings.fault? : FilterSettings → Option ConfigFault
  | .signatureValidation _ _ (some script) =>
    match script.source with
    | .ok _ => none
    | .error fault => some fault
  | .requiredExpiry (some n) => if n ≤ 0 then some .validityNotPositive else none
  | .signatureValidation _ _ none | .requiredExpiry none | .roleSelection .. | .entityIds .. => none

/-- A configuration. -/
structure Configuration where
  /-- Whether a failing filter fails the whole refresh; otherwise its entity is dropped. -/
  abortOnFilterError : Bool := false
  /-- The engine of scripts that name none. -/
  defaultEngine : String := defaultScriptEngine
  /-- The providers of keys, in the order in which they are asked. -/
  providers : List ProviderKind := ProviderKind.defaultChain
  /-- The filters, in the order in which they are applied. -/
  filters : List FilterSettings := []
deriving DecidableEq

namespace Configuration

/-- The first thing that is wrong with a configuration. -/
def fault? (c : Configuration) : Option ConfigFault :=
  if c.providers.isEmpty then some .noProviders
  else if Text.isBlankText c.defaultEngine then some .noDefaultEngine
  else c.filters.findSome? FilterSettings.fault?

/-- Checks a configuration. -/
def validate (c : Configuration) : Except MetadataError Unit :=
  match c.fault? with
  | some fault => .error (.config fault)
  | none => .ok ()

/-- The configuration with another engine for scripts that name none, unless its name is blank. -/
def withEngine (c : Configuration) : Option String → Configuration
  | some engine => if Text.isBlankText engine then c else { c with defaultEngine := engine }
  | none => c

end Configuration

end MetadataTrust
