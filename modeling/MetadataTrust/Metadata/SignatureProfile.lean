import MetadataTrust.Metadata.Entity
import MetadataTrust.SecurityError

/-!
The profile for signatures on metadata.

A signature must cover the object that carries it: it has exactly one reference, which points at the
whole document or at the object's identifier, and its transforms take out nothing but the signature.
-/

namespace MetadataTrust

/-- Whether a transform is one that the profile permits. -/
def isPermittedTransform (uri : String) : Bool := uri = envelopedSignature || isExclusive uri

/-- Checks that a reference points at the object with the given identifier. -/
def ContentReference.checkTarget (r : ContentReference) (id : Option String) :
    Except SignatureFault Unit :=
  if r.uri = "" then .ok ()
  else
    match id with
    | none => .error (.noObjectId r.uri)
    | some id => if r.uri = "#" ++ id then .ok () else .error (.objectIdMismatch r.uri id)

/-- Checks that all transforms of a reference are permitted. -/
def ContentReference.checkTransforms (r : ContentReference) : Except SignatureFault Unit :=
  match r.transforms.find? (!isPermittedTransform ·) with
  | some uri => .error (.transformNotPermitted uri)
  | none => .ok ()

/-- Checks a signature on the object with the given identifier. -/
def Signature.checkProfile (s : Signature) (id : Option String) : Except SignatureFault Unit :=
  match s.references with
  | [r] => do
    r.checkTarget id
    r.checkTransforms
  | references => .error (.referenceCount references.length)

/-- Checks the signature that an object carries; it must carry one. -/
def Signable.checkProfile (o : Signable) : Except SignatureFault Unit :=
  match o.signature? with
  | none => .error .unsigned
  | some s => s.checkProfile o.id?

end MetadataTrust
