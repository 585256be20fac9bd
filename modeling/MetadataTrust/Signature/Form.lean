import MetadataTrust.KeyInfo.Form
import MetadataTrust.Signature

/-!
The serialized form of signatures and their references.
-/

namespace MetadataTrust

/-- Texts as an array. -/
def textsForm (texts : List String) : Json := .array (texts.map .string)

namespace ContentReference

/-- The form of a reference. -/
def form (r : ContentReference) : Json :=
  .object
    [("uri", .string r.uri),
      ("transforms", textsForm r.transforms),
      ("digest_algorithm", .string r.digestAlgorithm),
      ("digest_value", octetsForm r.digestValue)]

/-- The members of the form of a reference. -/
def memberNames : List String := ["uri", "transforms", "digest_algorithm", "digest_value"]

/-- The parts of the form of a reference. -/
def shape : Shape := .members memberNames

/-- The reference of a form; every member has a default. -/
def ofTree? (t : Tree) : Option ContentReference := do
  match ← t.members? memberNames false with
  | [uri, transforms, algorithm, value] =>
    return {
      uri := ← Tree.orDefault? "" Tree.text? uri
      transforms := ← Tree.orDefault? [] (Tree.listOf? Tree.text?) transforms
      digestAlgorithm := ← Tree.orDefault? DigestAlgorithm.sha256.uri Tree.text? algorithm
      digestValue := ← Tree.orDefault? [] octetsOfTree? value }
  | _ => none

end ContentReference

namespace Signature

/-- The form of a signature. -/
def form (s : Signature) : Json :=
  .object (
    [("signature_algorithm", .string s.algorithm),
      ("canonicalization_algorithm", .string s.canonicalization),
      ("signed_info", octetsForm s.signedInfo),
      ("signature_value", octetsForm s.value)] ++
    optionalMember "key_info" KeyInfo.form s.keyInfo ++
    [("references", .array (s.references.map ContentReference.form))])

/-- The members of the form of a signature. -/
def memberNames : List String :=
  ["signature_algorithm", "canonicalization_algorithm", "signed_info", "signature_value",
    "key_info", "references"]

/-- The parts of the form of a signature. -/
def shape : Shape := .record [
  ("signature_algorithm", .whole),
  ("canonicalization_algorithm", .whole),
  ("signed_info", .whole),
  ("signature_value", .whole),
  ("key_info", KeyInfo.shape),
  ("references", .list ContentReference.shape)]

/-- The signature of a form. -/
def ofTree? (t : Tree) : Option Signature := do
  match ← t.members? memberNames false with
  | [algorithm, canonicalization, signedInfo, value, keyInfo, references] =>
    return {
      algorithm := ← Tree.needed? Tree.text? algorithm
      canonicalization := ← Tree.orDefault? exclusiveC14n Tree.text? canonicalization
      signedInfo := ← Tree.needed? octetsOfTree? signedInfo
      value := ← Tree.needed? octetsOfTree? value
      keyInfo := ← Tree.optional? KeyInfo.ofTree? keyInfo
      references := ← Tree.orDefault? [] (Tree.listOf? ContentReference.ofTree?) references }
  | _ => none

end Signature

end MetadataTrust
