import MetadataTrust.PublicKey
import MetadataTrust.SortedSet

/-!
Credentials: keys with what is known about them.
-/

namespace MetadataTrust

/-- What a key is meant for. -/
inductive KeyUsage where
  | signing
  | encryption
  | unspecified
deriving DecidableEq, Repr, Inhabited

namespace KeyUsage

/-- Whether a key declared for one usage may serve another; an unspecified usage goes with all. -/
def compatible (declared wanted : KeyUsage) : Bool :=
  declared = .unspecified || wanted = .unspecified || declared = wanted

/-- The name of a usage. -/
def name : KeyUsage → String
  | .signing => "signing"
  | .encryption => "encryption"
  | .unspecified => "unspecified"

/-- The usage of a name. -/
def ofName? (s : String) : Option KeyUsage :=
  if s = "signing" then some .signing
  else if s = "encryption" then some .encryption
  else if s = "unspecified" then some .unspecified
  else none

end KeyUsage

/-- A private key, which is never shown. -/
structure PrivateKey where
  pkcs8 : Octets
deriving DecidableEq, Inhabited

/-- A private key as diagnostics show it. -/
def PrivateKey.describe (_ : PrivateKey) : String := "PrivateKey(<redacted>)"

/-- A key with what is known about it. -/
structure Credential where
  /-- The entity that the key belongs to. -/
  entityId : Option String := none
  usage : KeyUsage := .unspecified
  publicKey : Option PublicKey := none
  /-- Only credentials that are held locally have one. -/
  privateKey : Option PrivateKey := none
  /-- The names that the key is known by. -/
  keyNames : NameSet := ∅
  /-- The certificate that binds the key. -/
  certificate : Option X509Certificate := none
  /-- The certificates that came with it. -/
  chain : List X509Certificate := []
deriving DecidableEq, Inhabited

namespace Credential

/-- A credential for a public key. -/
def ofPublicKey (k : PublicKey) : Credential := { publicKey := some k }

/-- Whether the key is known by one of the names. -/
def hasAnyName (c : Credential) (names : List String) : Bool := names.any (· ∈ c.keyNames)

end Credential

end MetadataTrust
