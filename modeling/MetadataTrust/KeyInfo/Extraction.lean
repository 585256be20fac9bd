import MetadataTrust.Credential
import MetadataTrust.KeyInfo

/-!
Extracting credentials from the children of a `KeyInfo`.

Each provider understands one form of child.  A chain of providers looks at every child: the first
provider that yields credentials for it wins, and one that finds malformed key material ends the
search for that child alone.  What is extracted is not trusted: its author wrote it.
-/

namespace MetadataTrust

/-- What the providers know about the whole `KeyInfo`. -/
structure ExtractionContext where
  /-- The names that its children give, in document order. -/
  keyNames : List String := []
  /-- The usage asked for. -/
  usage : KeyUsage := .unspecified
deriving DecidableEq, Repr, Inhabited

namespace ExtractionContext

/-- The context of a `KeyInfo` that is resolved for a usage. -/
def ofKeyInfo (info : KeyInfo) (usage : KeyUsage) : ExtractionContext := ⟨info.keyNames, usage⟩

/-- Stamps a credential with the names and the usage of the context. -/
def decorate (ctx : ExtractionContext) (k : Credential) : Credential :=
  { k with keyNames := k.keyNames.insertMany ctx.keyNames, usage := ctx.usage }

end ExtractionContext

/-- Something that extracts credentials from children of some form. -/
structure KeyInfoProvider where
  /-- The provider's name in diagnostics. -/
  name : String
  /-- Whether it understands a child. -/
  handles : KeyInfoChild → Bool
  /-- The credentials of a child; nothing passes the child on to the next provider. -/
  process : KeyInfoChild → ExtractionContext → Except SecurityError (Option (List Credential))

/-! ### The forms that are built in -/

/-- The credential of an RSA key value. -/
def extractRsa : KeyInfoChild → ExtractionContext →
    Except SecurityError (Option (List Credential))
  | .keyValue (.rsa modulus exponent), ctx =>
    match RsaKey.ofOctets? modulus exponent with
    | none => .error (.invalidKeyMaterial .rsaKeyValue .malformed)
    | some key => do
      let publicKey ← PublicKey.decode (Der.encodeRsaKey key)
      return some [ctx.decorate (.ofPublicKey publicKey)]
  | _, _ => .ok none

/-- The credential of an encoded key. -/
def extractEncoded : KeyInfoChild → ExtractionContext →
    Except SecurityError (Option (List Credential))
  | .encodedKey der, ctx => do
    let publicKey ← PublicKey.decode der
    return some [ctx.decorate (.ofPublicKey publicKey)]
  | _, _ => .ok none

/-- The credential of the first certificate: its subject's names are names of the key, and all
certificates are kept with it. -/
def extractCertificates : KeyInfoChild → ExtractionContext →
    Except SecurityError (Option (List Credential))
  | .x509Data (entity :: more), ctx => do
    let publicKey ← entity.publicKey
    let names ← entity.subjectNames
    let k := ctx.decorate (.ofPublicKey publicKey)
    return some [{ k with
      certificate := some entity
      chain := entity :: more
      keyNames := k.keyNames.insertMany names }]
  | _, _ => .ok none

/-- The providers that are built in. -/
inductive ProviderKind where
  | rsaKeyValue
  | encodedKey
  | certificates
deriving DecidableEq, Repr

namespace ProviderKind

/-- The providers of the default chain. -/
def defaultChain : List ProviderKind := [.rsaKeyValue, .encodedKey, .certificates]

/-- The name of a provider in a configuration. -/
def name : ProviderKind → String
  | .rsaKeyValue => "rsa_key_value"
  | .encodedKey => "der_encoded_key_value"
  | .certificates => "inline_x509_data"

/-- The provider of a name. -/
def ofName? (s : String) : Option ProviderKind := defaultChain.find? (·.name = s)

/-- The form of child that a provider understands. -/
def handles : ProviderKind → KeyInfoChild → Bool
  | .rsaKeyValue, .keyValue (.rsa ..) => true
  | .encodedKey, .encodedKey _ => true
  | .certificates, .x509Data _ => true
  | _, _ => false

/-- The name of a provider in diagnostics. -/
def describe : ProviderKind → String
  | .rsaKeyValue => "RsaKeyValueProvider"
  | .encodedKey => "DerEncodedKeyValueProvider"
  | .certificates => "InlineX509DataProvider"

/-- The provider of a kind. -/
def provider (kind : ProviderKind) : KeyInfoProvider where
  name := kind.describe
  handles := kind.handles
  process := match kind with
    | .rsaKeyValue => extractRsa
    | .encodedKey => extractEncoded
    | .certificates => extractCertificates

end ProviderKind

/-! ### Chains of providers -/

/-- What a chain of providers makes of one child. -/
def extractChild (ctx : ExtractionContext) (child : KeyInfoChild) :
    List KeyInfoProvider → List Credential
  | [] => []
  | p :: more =>
    if p.handles child then
      match p.process child ctx with
      | .ok (some found) => found
      | .ok none => extractChild ctx child more
      | .error _ => []
    else extractChild ctx child more

/-- What a chain of providers extracts from a `KeyInfo`, child by child. -/
def extract (providers : List KeyInfoProvider) (info : KeyInfo) (usage : KeyUsage) :
    List Credential :=
  info.children.flatMap fun child => extractChild (.ofKeyInfo info usage) child providers

end MetadataTrust
