import MetadataTrust.KeyInfo.Extraction
import MetadataTrust.Resolution

/-!
Resolving the credentials of a `KeyInfo`.

`keyInfoResolver` gives whatever the providers extract.  `localKeyInfoResolver` only gives entries of
a store: those that hold an extracted key, or, if there are none, those that bear a name that the
`KeyInfo` gives.
-/

namespace MetadataTrust

/-- The credentials that the providers extract. -/
def keyInfoResolver (providers : List KeyInfoProvider) : Resolver Credential := fun c => do
  let info ← required .keyInfo c.keyInfo
  return extract providers info c.wantedUsage

/-- Resolves each of the criteria in turn, and puts the results together. -/
def Resolver.concat {α : Type} (r : Resolver α) (cs : List Criteria) :
    Except ResolutionError (List α) := do
  return (← cs.mapM r).flatten

/-- The entries of a store that the `KeyInfo` points at, by key or else by name. -/
def localKeyInfoResolver (providers : List KeyInfoProvider) (store : Resolver Credential) :
    Resolver Credential := fun c => do
  let info ← required .keyInfo c.keyInfo
  let usage := c.wantedUsage
  let keys := (extract providers info usage).filterMap (·.publicKey)
  let byKey ← store.concat (keys.map fun key => { publicKey := some key, usage := some usage })
  if byKey.isEmpty then
    store.concat (info.keyNames.map fun name => { keyName := some name, usage := some usage })
  else return byKey

/-- The providers as diagnostics show them. -/
def describeProviders (providers : List KeyInfoProvider) : String :=
  Text.bracketed (providers.map (·.name))

/-- The extracting resolver as diagnostics show it. -/
def describeKeyInfoResolver (providers : List KeyInfoProvider) : String :=
  Text.record "KeyInfoCredentialResolver" [("providers", describeProviders providers)] false

/-- The local resolver as diagnostics show it. -/
def describeLocalResolver (providers : List KeyInfoProvider) : String :=
  Text.record "LocalKeyInfoCredentialResolver" [("providers", describeProviders providers)] true

end MetadataTrust
