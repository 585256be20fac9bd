import MetadataTrust.Metadata.SignatureProfile
import MetadataTrust.Signature.Validator
import MetadataTrust.Proofs.Outcome

/-!
# What a verified signature says

A signature that the default validator accepts has references, each with the digest of the content,
and each digest value stands in the signed octets; its value is good for them under the key of the
credential.  A signature that keeps to the profile has one reference only.
-/

namespace MetadataTrust

/-! ### Occurrences -/

theorem Octets.contains_iff {pattern bs : Octets} :
    Octets.contains pattern bs = true ↔ pattern <:+: bs := by
  induction bs with
  | nil => simp [contains]
  | cons b bs ih =>
    rw [contains, Bool.or_eq_true, ih, List.infix_cons_iff, List.isPrefixOf_iff_prefix]

/-! ### References -/

namespace ContentReference

variable {r : ContentReference} {signedInfo content : Octets}

theorem verifyDigest_eq_ok_iff :
    r.verifyDigest content = .ok () ↔
      r.digestValue ≠ [] ∧ digest r.digestAlgorithm content = .ok r.digestValue := by
  unfold verifyDigest
  simp only [Except.throw_bind, Except.ite_throw_eq_ok_iff, Except.bind_eq_ok_iff,
    Except.pure_eq_ok_iff, and_true, not_not]
  refine and_congr_right fun _ => ⟨?_, fun h => ⟨_, h, rfl⟩⟩
  rintro ⟨d, hd, rfl⟩
  exact hd

/-- **A reference is verified exactly if its digest is there, is that of the content, and stands as
the text of a `DigestValue` in the signed octets.** -/
theorem verify_eq_ok_iff :
    r.verify signedInfo content = .ok () ↔
      r.digestValue ≠ [] ∧ digest r.digestAlgorithm content = .ok r.digestValue ∧
        r.coverage <:+: signedInfo := by
  unfold verify
  rw [Except.unit_bind_eq_ok_iff, ← and_assoc, ← verifyDigest_eq_ok_iff, ← Octets.contains_iff]
  simp

end ContentReference

namespace Signature

variable {s : Signature} {content : Octets}

theorem verifyReferences_eq_ok_iff :
    s.verifyReferences content = .ok () ↔
      s.references ≠ [] ∧ ∀ r ∈ s.references, r.verify s.signedInfo content = .ok () := by
  unfold verifyReferences
  rw [← Except.forM_eq_ok_iff]
  simp

/-- A signature that keeps to the profile has one reference, which points at the object and takes out
nothing but the signature. -/
theorem checkProfile_eq_ok_iff {id : Option String} :
    s.checkProfile id = .ok () ↔
      ∃ r, s.references = [r] ∧ (r.uri = "" ∨ ∃ i, id = some i ∧ r.uri = "#" ++ i) ∧
        ∀ t ∈ r.transforms, isPermittedTransform t = true := by
  have htarget : ∀ r : ContentReference, r.checkTarget id = .ok () ↔
      r.uri = "" ∨ ∃ i, id = some i ∧ r.uri = "#" ++ i := by
    intro r
    unfold ContentReference.checkTarget
    by_cases huri : r.uri = ""
    · simp [huri]
    · cases id with
      | none => simp [huri]
      | some i => by_cases hi : r.uri = "#" ++ i <;> simp [huri, hi]
  have htransforms : ∀ r : ContentReference, r.checkTransforms = .ok () ↔
      ∀ t ∈ r.transforms, isPermittedTransform t = true := by
    intro r
    unfold ContentReference.checkTransforms
    cases hfind : r.transforms.find? (!isPermittedTransform ·) with
    | none => simpa using hfind
    | some t =>
      have ht := List.find?_some hfind
      have hmem := List.mem_of_find?_eq_some hfind
      simp only [reduceCtorEq, false_iff]
      intro hall
      simp [hall t hmem] at ht
  unfold checkProfile
  rcases hrefs : s.references with _ | ⟨r, _ | ⟨r', more⟩⟩
  · simp
  · rw [Except.unit_bind_eq_ok_iff, htarget, htransforms]
    simp
  · simp

end Signature

/-! ### Values -/

theorem validateSignature_eq_ok_iff {s : Signature} {k : Credential} :
    validateSignature s k = .ok () ↔
      ∃ a key, SignatureAlgorithm.ofUri? s.algorithm = some a ∧ k.publicKey = some key ∧
        key.algorithm = a.keyAlgorithm ∧ a.verify key s.signedInfo s.value = .ok () := by
  unfold validateSignature
  cases SignatureAlgorithm.ofUri? s.algorithm with
  | none => simp
  | some a =>
    cases k.publicKey with
    | none => simp
    | some key => by_cases halg : key.algorithm = a.keyAlgorithm <;> simp [halg]

/-- A validator that never accepts a content that the signature's references do not bind. -/
def SignatureValidator.ChecksContent (w : SignatureValidator) : Prop :=
  ∀ s content k, w.validateContent s content k = .ok () → s.verifyReferences content = .ok ()

theorem defaultValidator_eq_ok_iff {s : Signature} {content : Octets} {k : Credential} :
    defaultValidator.validateContent s content k = .ok () ↔
      s.verifyReferences content = .ok () ∧ validateSignature s k = .ok () := by
  exact Except.unit_bind_eq_ok_iff

/-- A validator checks contents unless it has a way of its own to validate them. -/
theorem SignatureValidator.checksContent_of_validate
    (validate : Signature → Credential → Except SecurityError Unit) :
    ChecksContent { validate := validate } :=
  fun _ _ _ h => (Except.unit_bind_eq_ok_iff.1 h).1

end MetadataTrust
