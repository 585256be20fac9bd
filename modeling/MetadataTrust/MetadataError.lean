import MetadataTrust.Json.Printer
import MetadataTrust.QName
import MetadataTrust.Resolution
import MetadataTrust.SecurityError

/-!
What can go wrong with metadata, its filters and its policies, and how it is put into words.
-/

namespace MetadataTrust

/-- Why one credential did not verify a signature. -/
inductive AttemptFailure where
  | invalid (error : SecurityError)
  /-- The signature is good, but the signer bears none of the trusted names. -/
  | untrusted (signer : NameSet)
deriving DecidableEq

/-- A set of names as messages show it. -/
def NameSet.text (names : NameSet) : String := Text.braced (names.toList.map Text.quoted)

/-- The failure in words. -/
def AttemptFailure.message : AttemptFailure → String
  | .invalid error => error.message
  | .untrusted signer => "signer " ++ NameSet.text signer ++ " is not among the trusted names"

/-- Why a filter rejects an entity. -/
inductive Rejection where
  | noExpiry
  /-- The entity stays valid for too long; both in seconds. -/
  | validityTooLong (seconds maximum : Int)
  | unsigned
  | profileViolated (fault : SignatureFault)
  | trustedNamesUnknown
  /-- None of the credentials that were tried verified the signature; the last failure. -/
  | notVerified (tried : Nat) (last : AttemptFailure)
  | noCredential
  /-- A reason of a filter from outside this library. -/
  | other (reason : String)
deriving DecidableEq

/-- The reason in words. -/
def Rejection.message : Rejection → String
  | .noExpiry => "validUntil is required"
  | .validityTooLong seconds maximum =>
    "validity of " ++ toString seconds ++ "s exceeds maximum of " ++ toString maximum ++ "s"
  | .unsigned => "entity is not signed"
  | .profileViolated fault => (SecurityError.signatureInvalid fault).message
  | .trustedNamesUnknown =>
    "trusted names could not be computed and no static names are configured"
  | .notVerified tried last =>
    "no credential verified the signature (" ++ toString tried ++ " tried): " ++ last.message
  | .noCredential => "no verification credential resolved"
  | .other reason => reason

/-- Why a script cannot be compiled or evaluated. -/
inductive ScriptFault where
  | noExpressions
  | noPointers
  | malformedPath (path reason : String)
  | malformedPointer (pointer : String)
  /-- A path that cannot be evaluated on a scope. -/
  | pathFailed (reason : String)
  | resultNotList
  /-- A value among the results that is not a name. -/
  | notName (value : Json)
  /-- A reason of an engine from outside this library. -/
  | other (reason : String)
deriving DecidableEq

/-- The reason in words. -/
def ScriptFault.message : ScriptFault → String
  | .noExpressions => "script contains no expressions"
  | .noPointers => "script contains no pointers"
  | .malformedPath path reason => "invalid JSONPath " ++ path ++ ": " ++ reason
  | .malformedPointer pointer => "pointer must start with '/': " ++ pointer
  | .pathFailed reason => reason
  | .resultNotList => "script result is not a list"
  | .notName value => "non-string name in result: " ++ value.render
  | .other reason => reason

/-- What is wrong with the structure of an entity. -/
inductive StructureFault where
  | emptyEntityId
  | noProtocols (role : QName)
  | duplicateEntityId
deriving DecidableEq, Repr

/-- The fault in words. -/
def StructureFault.message : StructureFault → String
  | .emptyEntityId => "entityID is empty"
  | .noProtocols role => role.text ++ " declares no supported protocols"
  | .duplicateEntityId => "duplicate entityID in document"

/-- What is wrong with a configuration, or with something that it names. -/
inductive ConfigFault where
  | malformed
  | malformedMetadata
  | unreadableFile (path : String)
  | unreadableScript (path : String)
  | noProviders
  | noDefaultEngine
  | scriptSource
  | validityNotPositive
  /-- A number of seconds that is no length of time. -/
  | validityOutOfRange (seconds : Int)
  | unknownEngine (name : String)
deriving DecidableEq, Repr

/-- The fault in words. -/
def ConfigFault.message : ConfigFault → String
  | .malformed => "failed to parse configuration: malformed document"
  | .malformedMetadata => "invalid metadata YAML: malformed document"
  | .unreadableFile path => "failed to read " ++ path ++ ": not a readable text file"
  | .unreadableScript path => "cannot read script " ++ path ++ ": not a readable text file"
  | .noProviders => "provider_chain must not be empty"
  | .noDefaultEngine => "default_script_engine must not be empty"
  | .scriptSource => "trusted_names_script needs exactly one of inline or file"
  | .validityNotPositive => "max_validity_secs must be positive"
  | .validityOutOfRange seconds => "duration out of range: " ++ toString seconds ++ "s"
  | .unknownEngine name => "unknown script engine '" ++ name ++ "'"

/-- A failure of an operation on metadata. -/
inductive MetadataError where
  | resolution (error : ResolutionError)
  | security (error : SecurityError)
  /-- A filter rejects an entity. -/
  | rejected (filter : String) (reason : Rejection)
  /-- A script of an engine fails. -/
  | script (engine : String) (fault : ScriptFault)
  | invalidMetadata (entityId : String) (fault : StructureFault)
  | config (fault : ConfigFault)
deriving DecidableEq

/-- The failure in words. -/
def MetadataError.message : MetadataError → String
  | .resolution error => error.message
  | .security error => error.message
  | .rejected filter reason => "rejected by " ++ filter ++ ": " ++ reason.message
  | .script engine fault => "policy evaluation failed (" ++ engine ++ "): " ++ fault.message
  | .invalidMetadata entityId fault =>
    "invalid metadata for " ++ entityId ++ ": " ++ fault.message
  | .config fault => "configuration error: " ++ fault.message

end MetadataTrust
