import MetadataTrust.Base64
import MetadataTrust.Credential
import MetadataTrust.KeyInfo
import MetadataTrust.Shape
import MetadataTrust.Tree

/-!
The serialized form of a `KeyInfo`: octets are Base64 texts, a child is a mapping from its kind to its
content, and optional members that are absent are left out.
-/

namespace MetadataTrust

/-- A member of an object, unless it is absent. -/
def optionalMember {α : Type} (name : String) (form : α → Json) : Option α → List (String × Json)
  | some a => [(name, form a)]
  | none => []

/-- Octets as a Base64 text. -/
def octetsForm (bs : Octets) : Json := .string (Base64.encode bs)

/-- The octets of a Base64 text. -/
def octetsOfTree? (t : Tree) : Option Octets := do Base64.decode? (← t.text?)

/-- A usage by its name. -/
def KeyUsage.form (u : KeyUsage) : Json := .string u.name

/-- The usage of a name. -/
def KeyUsage.ofTree? (t : Tree) : Option KeyUsage := do
  let (name, content) ← t.variant?
  if Tree.isNothing content then KeyUsage.ofName? name else none

/-- The form of a certificate. -/
def X509Certificate.form (c : X509Certificate) : Json := .object [("der", octetsForm c.der)]

/-- The parts of the form of a certificate. -/
def X509Certificate.shape : Shape := .members ["der"]

/-- The certificate of a form. -/
def X509Certificate.ofTree? (t : Tree) : Option X509Certificate := do
  match ← t.members? ["der"] false with
  | [der] => return ⟨← Tree.needed? octetsOfTree? der⟩
  | _ => none

/-- The form of key parameters. -/
def KeyValue.form : KeyValue → Json
  | .rsa modulus exponent =>
    .object [("rsa",
      .object [("modulus", octetsForm modulus), ("exponent", octetsForm exponent)])]
  | .dsa p q g y =>
    .object [("dsa", .object
      [("p", octetsForm p), ("q", octetsForm q), ("g", octetsForm g), ("y", octetsForm y)])]

/-- The parts of the form of key parameters. -/
def KeyValue.shape : Shape :=
  .record [("rsa", .members ["modulus", "exponent"]), ("dsa", .members ["p", "q", "g", "y"])]

/-- The key parameters of a form. -/
def KeyValue.ofTree? (t : Tree) : Option KeyValue := do
  let (kind, content) ← t.variant?
  let record ← Tree.recordContent? content
  if kind = "rsa" then
    match ← record.members? ["modulus", "exponent"] false with
    | [modulus, exponent] =>
      return .rsa (← Tree.needed? octetsOfTree? modulus) (← Tree.needed? octetsOfTree? exponent)
    | _ => none
  else if kind = "dsa" then
    match ← record.members? ["p", "q", "g", "y"] false with
    | [p, q, g, y] =>
      return .dsa (← Tree.needed? octetsOfTree? p) (← Tree.needed? octetsOfTree? q)
        (← Tree.needed? octetsOfTree? g) (← Tree.needed? octetsOfTree? y)
    | _ => none
  else none

namespace KeyInfoChild

/-- The form of a child. -/
def form : KeyInfoChild → Json
  | .keyName name => .object [("key_name", .string name)]
  | .keyValue value => .object [("key_value", value.form)]
  | .encodedKey der => .object [("der_encoded_key_value", octetsForm der)]
  | .x509Data certificates =>
    .object [("x509_data",
      .object [("certificates", .array (certificates.map X509Certificate.form))])]
  | .unknown element => .object [("unknown", .string element)]

/-- The parts of the form of a child. -/
def shape : Shape := .record [
  ("key_name", .whole),
  ("key_value", KeyValue.shape),
  ("der_encoded_key_value", .whole),
  ("x509_data", .record [("certificates", .list X509Certificate.shape)]),
  ("unknown", .whole)]

/-- The certificates of the form of `X509Data`. -/
def certificates? (t : Tree) : Option (List X509Certificate) := do
  match ← t.members? ["certificates"] false with
  | [certificates] => Tree.orDefault? [] (Tree.listOf? X509Certificate.ofTree?) certificates
  | _ => none

/-- The child of a form. -/
def ofTree? (t : Tree) : Option KeyInfoChild := do
  let (kind, content) ← t.variant?
  let content ← content
  if kind = "key_name" then return .keyName (← content.text?)
  else if kind = "key_value" then return .keyValue (← KeyValue.ofTree? content)
  else if kind = "der_encoded_key_value" then return .encodedKey (← octetsOfTree? content)
  else if kind = "x509_data" then return .x509Data (← certificates? content)
  else if kind = "unknown" then return .unknown (← content.text?)
  else none

end KeyInfoChild

namespace KeyInfo

/-- The form of a `KeyInfo`. -/
def form (k : KeyInfo) : Json :=
  .object (optionalMember "id" .string k.id ++
    [("children", .array (k.children.map KeyInfoChild.form))])

/-- The parts of the form of a `KeyInfo`. -/
def shape : Shape := .record [("id", .whole), ("children", .list KeyInfoChild.shape)]

/-- The `KeyInfo` of a form. -/
def ofTree? (t : Tree) : Option KeyInfo := do
  match ← t.members? ["id", "children"] false with
  | [id, children] =>
    return {
      id := ← Tree.optional? Tree.text? id
      children := ← Tree.orDefault? [] (Tree.listOf? KeyInfoChild.ofTree?) children }
  | _ => none

end KeyInfo

end MetadataTrust
