import MetadataTrust.PublicKey

/-!
The `KeyInfo` of XML signatures: an ordered list of hints at a key.
-/

namespace MetadataTrust

/-- The parameters of a public key, as unsigned integers written most significant octet first. -/
inductive KeyValue where
  | rsa (modulus exponent : Octets)
  | dsa (p q g y : Octets)
deriving DecidableEq, Repr

/-- One hint at a key. -/
inductive KeyInfoChild where
  | keyName (name : String)
  | keyValue (value : KeyValue)
  /-- An encoded `SubjectPublicKeyInfo`. -/
  | encodedKey (der : Octets)
  | x509Data (certificates : List X509Certificate)
  /-- Any other element, by its qualified name. -/
  | unknown (element : String)
deriving DecidableEq, Repr

/-- The name of the child's element. -/
def KeyInfoChild.elementName : KeyInfoChild → String
  | .keyName _ => "KeyName"
  | .keyValue (.rsa ..) => "RSAKeyValue"
  | .keyValue (.dsa ..) => "DSAKeyValue"
  | .encodedKey _ => "DEREncodedKeyValue"
  | .x509Data _ => "X509Data"
  | .unknown element => element

/-- The name in a child that gives one. -/
def KeyInfoChild.name? : KeyInfoChild → Option String
  | .keyName name => some name
  | _ => none

/-- Hints at a key, in document order. -/
structure KeyInfo where
  id : Option String := none
  children : List KeyInfoChild := []
deriving DecidableEq, Repr, Inhabited

namespace KeyInfo

/-- The names that the children give, in document order. -/
def keyNames (k : KeyInfo) : List String := k.children.filterMap KeyInfoChild.name?

/-- Whether there are no children. -/
def isEmpty (k : KeyInfo) : Bool := k.children.isEmpty

end KeyInfo

end MetadataTrust
