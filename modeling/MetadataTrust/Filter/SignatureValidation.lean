import MetadataTrust.Filter.Basic
import MetadataTrust.Metadata.SignatureProfile
import MetadataTrust.Signature.Validator
import MetadataTrust.TrustedNames

/-!
The filter that verifies the signatures on metadata.

A signed object is accepted when some credential that the resolver gives for its `KeyInfo` verifies
the signature over its canonical content and bears a trusted name.  An entity that is not accepted is
rejected; a signed role that is not accepted is removed from its entity.
-/

namespace MetadataTrust

/-- How signatures on metadata are verified. -/
structure SignatureValidation where
  /-- Where the credentials that may verify a signature come from. -/
  credentials : Resolver Credential
  validator : SignatureValidator := defaultValidator
  /-- Whether an entity must be signed. -/
  requireSignature : Bool := false
  /-- The trusted signers when no policy says otherwise; an empty set trusts all. -/
  trustedNames : NameSet := ∅
  policy : Option TrustPolicy := none

namespace SignatureValidation

/-- The filter's name. -/
def filterName : String := "signature_validation"

/-- A rejection by the filter. -/
def reject (reason : Rejection) : MetadataError := .rejected filterName reason

/-- The trusted names for an object: those of the policy, or the static ones if there is no policy or
it fails and there are any. -/
def namesFor (v : SignatureValidation) (o : SignedObject) : Except MetadataError NameSet :=
  match v.policy with
  | none => .ok v.trustedNames
  | some policy =>
    match policy o with
    | some names => .ok names
    | none =>
      if v.trustedNames.isEmpty then .error (reject .trustedNamesUnknown) else .ok v.trustedNames

/-- What is asked of the resolver: the signature's `KeyInfo`, for signing. -/
def lookup (s : Signature) : Criteria :=
  { keyInfo := some (s.keyInfo.getD {}), usage := some .signing }

/-- Tries one credential. -/
def attempt (v : SignatureValidation) (s : Signature) (content : Octets) (names : NameSet)
    (k : Credential) : Except AttemptFailure Unit := do
  (v.validator.validateContent s content k).mapError .invalid
  if names.isEmpty || k.hasAnyName names.toList then return ()
  else throw (.untrusted k.keyNames)

/-- Tries credentials until one succeeds; otherwise tells how many were tried before, and why the last
one failed. -/
def attemptAll (v : SignatureValidation) (s : Signature) (content : Octets) (names : NameSet) :
    Nat → Rejection → List Credential → Except Rejection Unit
  | _, reason, [] => .error reason
  | tried, _, k :: more =>
    match v.attempt s content names k with
    | .ok () => .ok ()
    | .error failure =>
      attemptAll v s content names (tried + 1) (.notVerified (tried + 1) failure) more

/-- Verifies the signature `s` on an object. -/
def verify (v : SignatureValidation) (s : Signature) (o : SignedObject) :
    Except MetadataError Unit := do
  (s.checkProfile o.signable.id?).mapError fun fault => reject (.profileViolated fault)
  let names ← v.namesFor o
  let credentials ← (v.credentials (lookup s)).mapError .resolution
  (v.attemptAll s o.signable.canonicalContent names 0 .noCredential credentials).mapError reject

/-- Whether a role stays in its entity: it is not signed, or its signature verifies. -/
def keepsRole (v : SignatureValidation) (owner : Entity) (r : Role) : Bool :=
  match r.signature with
  | none => true
  | some s => (v.verify s (.role owner r)).isOk

/-- Verifies an entity and its roles.  Roles are judged with their owner stripped of its roles. -/
def apply (v : SignatureValidation) (e : Entity) : FilterResult := do
  match e.signature with
  | some s => v.verify s (.entity e)
  | none => if v.requireSignature then throw (reject .unsigned)
  return some { e with roles := e.roles.filter (v.keepsRole { e with roles := [] }) }

/-- The filter. -/
def filter (v : SignatureValidation) : MetadataFilter := ⟨filterName, fun _ e => v.apply e⟩

/-- The filter as diagnostics show it. -/
def describe (v : SignatureValidation) : String :=
  Text.record "SignatureValidationFilter"
    [("require_signature", toString v.requireSignature),
      ("trusted_names", NameSet.text v.trustedNames),
      ("dynamic_names", toString v.policy.isSome)] false

end SignatureValidation

end MetadataTrust
