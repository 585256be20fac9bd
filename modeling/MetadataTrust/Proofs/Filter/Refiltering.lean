import MetadataTrust.Proofs.Json.Length
import MetadataTrust.Proofs.Signature.Acceptance
import MetadataTrust.Proofs.Signature.References

/-!
# Verifying signatures once more

The verification changes what it verifies: it takes roles out of an entity that was signed with them.
Coming to the same entity again it takes out nothing more, and passes it on unless the signature no
longer fits the content (`refiltering_harmless_iff`).  Content without some of its roles is different
content, as its canonical text is shorter.
-/

namespace MetadataTrust

/-! ### Content without some roles -/

lemma Role.chars_form_ne_nil (r : Role) : r.form.sorted.chars ≠ [] := by
  rw [form, Json.sorted, Json.chars]
  exact List.cons_ne_nil _ _

/-- **An entity without some of its roles has other canonical content.** -/
theorem Entity.canonicalContent_ne {e : Entity} {roles : List Role} (hsub : roles.Sublist e.roles)
    (hne : roles ≠ e.roles) :
    (Signable.entity { e with roles := roles }).canonicalContent ≠
      (Signable.entity e).canonicalContent := by
  have hlt : (Json.array (roles.map Role.form)).sorted.chars.length <
      (Json.array (e.roles.map Role.form)).sorted.chars.length := by
    have hmap : roles.map Role.form ≠ e.roles.map Role.form := by
      intro h
      have hlength := congrArg List.length h
      rw [List.length_map, List.length_map] at hlength
      exact hne (hsub.eq_of_length hlength)
    refine Json.length_sorted_array_lt (hsub.map Role.form) hmap ?_
    intro x hx
    obtain ⟨r, -, rfl⟩ := List.mem_map.1 hx
    exact r.chars_form_ne_nil
  intro heq
  have hlength := congrArg List.length (Json.canonical_inj heq)
  simp only [Signable.form, Signable.withSignature, form, Json.length_sorted_object, members,
    optionalMember, List.map_append, List.sum_append, List.map_cons, List.map_nil, List.sum_cons,
    List.sum_nil, Json.memberLength] at hlength
  omega

namespace SignatureValidation

variable {v : SignatureValidation} {e f : Entity} {s : Signature} {o : SignedObject}

/-! ### The second time -/

/-- Nothing more is taken out the second time, as roles are judged without the others. -/
@[simp] lemma trimmed_trimmed : v.trimmed (v.trimmed e) = v.trimmed e := by
  have hroles : (v.trimmed (v.trimmed e)).roles = (v.trimmed e).roles := by
    refine List.filter_eq_self.2 fun r hr => ?_
    have hretains : v.Retains e r := of_decide_eq_true (List.mem_filter.1 hr).2
    exact decide_eq_true hretains
  exact congrArg (fun roles => { v.trimmed e with roles := roles }) hroles

lemma passes_trimmed_iff (h : v.Passes e) :
    v.Passes (v.trimmed e) ↔ ∀ s, e.signature = some s → v.Accepts s (.entity (v.trimmed e)) := by
  unfold Passes at h ⊢
  have hsame : (v.trimmed e).signature = e.signature := rfl
  rw [hsame]
  cases hs : e.signature with
  | none =>
    rw [hs] at h
    simpa using h
  | some s => simp

/-- Where the validator checks contents, the digest of an accepted signature's one reference is that of
the content. -/
lemma Accepts.digest_eq (h : v.Accepts s o) (hcheck : v.validator.ChecksContent) :
    ∃ r, s.references = [r] ∧
      digest r.digestAlgorithm o.signable.canonicalContent = .ok r.digestValue := by
  obtain ⟨names, ks, k, h⟩ := h
  obtain ⟨r, hr, -, -⟩ := Signature.checkProfile_eq_ok_iff.1 h.profile
  obtain ⟨-, hall⟩ := Signature.verifyReferences_eq_ok_iff.1 (hcheck _ _ _ h.valid)
  obtain ⟨-, hdigest, -⟩ :=
    ContentReference.verify_eq_ok_iff.1 (hall r (by rw [hr]; exact List.mem_singleton_self r))
  exact ⟨r, hr, hdigest⟩

/-- Contents that one signature is accepted for have one digest, where the validator checks contents. -/
lemma Accepts.same_digest {o' : SignedObject} (h : v.Accepts s o) (h' : v.Accepts s o')
    (hcheck : v.validator.ChecksContent) :
    ∃ r, s.references = [r] ∧
      digest r.digestAlgorithm o.signable.canonicalContent = .ok r.digestValue ∧
      digest r.digestAlgorithm o'.signable.canonicalContent = .ok r.digestValue := by
  obtain ⟨r, hr, hdigest⟩ := h.digest_eq hcheck
  obtain ⟨r', hr', hdigest'⟩ := h'.digest_eq hcheck
  obtain rfl : r = r' := by simpa using hr.symm.trans hr'
  exact ⟨r, hr, hdigest, hdigest'⟩

theorem apply_trimmed_eq_ok_iff (h : v.Passes e) :
    v.apply (v.trimmed e) = .ok (some (v.trimmed e)) ↔
      ∀ s, e.signature = some s → v.Accepts s (.entity (v.trimmed e)) := by
  rw [apply_eq_ok_iff, trimmed_trimmed, passes_trimmed_iff h]
  simp

/-- What passed once and does not pass again fails with the failure of its signature. -/
theorem apply_trimmed_ok_or_error (h : v.Passes e) :
    v.apply (v.trimmed e) = .ok (some (v.trimmed e)) ∨
      ∃ s err, e.signature = some s ∧ v.verify s (.entity (v.trimmed e)) = .error err ∧
        v.apply (v.trimmed e) = .error err := by
  cases hs : e.signature with
  | none => exact .inl ((apply_trimmed_eq_ok_iff h).2 (by simp [hs]))
  | some s =>
    rcases Except.ok_or_error (v.verify s (.entity (v.trimmed e))) with ⟨_, hok⟩ | ⟨err, herr⟩
    · refine .inl ((apply_trimmed_eq_ok_iff h).2 fun s' hs' => ?_)
      obtain rfl := Option.some.inj (hs.symm.trans hs')
      exact verify_eq_ok_iff.1 hok
    · exact .inr ⟨s, err, rfl, herr, apply_eq_error_of_verify hs herr⟩

/-- **An entity that the filter passed on passes it again unchanged exactly if its signature, should it
have one, is acceptable for what was passed on**; otherwise it fails with the failure of that
signature.  So the filter does no harm to an entity that is not signed or lost no role.  To a signed one
that lost a role it always does, where contents are checked, unless its contents before and after have
one digest. -/
theorem refiltering_harmless_iff (h : v.apply e = .ok (some f)) :
    (v.apply f = .ok (some f) ↔ ∀ s, e.signature = some s → v.Accepts s (.entity f)) ∧
    (v.apply f = .ok (some f) ∨
      ∃ s err, e.signature = some s ∧ v.verify s (.entity f) = .error err ∧ v.apply f = .error err) ∧
    (e.signature = none ∨ f.roles = e.roles → v.apply f = .ok (some f)) ∧
    (v.validator.ChecksContent → v.apply f = .ok (some f) →
      e.signature = none ∨ f.roles = e.roles ∨
        ∃ s r, e.signature = some s ∧ s.references = [r] ∧
          (Signable.entity f).canonicalContent ≠ (Signable.entity e).canonicalContent ∧
          digest r.digestAlgorithm (Signable.entity f).canonicalContent = .ok r.digestValue ∧
          digest r.digestAlgorithm (Signable.entity e).canonicalContent = .ok r.digestValue) := by
  obtain ⟨hpass, hf⟩ := apply_eq_ok_iff.1 h
  obtain rfl := Option.some.inj hf
  refine ⟨apply_trimmed_eq_ok_iff hpass, apply_trimmed_ok_or_error hpass, ?_, ?_⟩
  · rintro (hs | hroles)
    · exact (apply_trimmed_eq_ok_iff hpass).2 (by simp [hs])
    · have hsame : v.trimmed e = e := congrArg (fun roles => { e with roles := roles }) hroles
      rw [hsame] at h ⊢
      exact h
  · intro hcheck hok
    cases hs : e.signature with
    | none => exact .inl rfl
    | some s =>
      by_cases hroles : (v.trimmed e).roles = e.roles
      · exact .inr (.inl hroles)
      · have haccepts := (apply_trimmed_eq_ok_iff hpass).1 hok s hs
        obtain ⟨r, hr, hdigest, hdigest'⟩ := haccepts.same_digest (hpass.accepts hs) hcheck
        exact .inr (.inr ⟨s, r, rfl, hr, Entity.canonicalContent_ne List.filter_sublist hroles,
          hdigest, hdigest'⟩)

end SignatureValidation

/-! ### A role that is not accepted in an entity that is -/

namespace RefilteringSample

def validation : SignatureValidation where
  credentials := fun _ => .ok [{}]
  validator := { validate := fun _ _ => .ok () }

/-- A role whose signature has no reference. -/
def badRole : Role where
  elementType := ⟨"urn:md", "IDP", none⟩
  supportedProtocols := ["urn:p"]
  signature := some { algorithm := "", canonicalization := "", signedInfo := [], value := [] }

def unsigned : Entity where
  entityId := "https://idp.example.org"
  roles := [badRole]

/-- The reference with the digest of all of the entity, the role included. -/
def reference : ContentReference where
  digestAlgorithm := DigestAlgorithm.sha1.uri
  digestValue := Octets.ofNat 20 0x19ce419dc8ab0be62c22a454c35e0e5009b07d5d

def signed : Entity :=
  { unsigned with
    signature := some {
      algorithm := SignatureAlgorithm.ed25519.uri
      signedInfo := reference.coverage
      value := []
      references := [reference] } }

/-- The filter accepts the signed entity without its role, and rejects that when it comes again. -/
theorem rejected_when_seen_again :
    validation.apply signed = .ok (some { signed with roles := [] }) ∧
    validation.apply { signed with roles := [] } = .error (SignatureValidation.reject
      (.notVerified 1 (.invalid (.signatureInvalid (.digestMismatch ""))))) := by
  constructor <;> decide +kernel

/-- Not signed, the entity comes through without its role and then unchanged. -/
theorem unsigned_passes_again :
    validation.apply unsigned = .ok (some { unsigned with roles := [] }) ∧
    validation.apply { unsigned with roles := [] } = .ok (some { unsigned with roles := [] }) := by
  have h : validation.apply unsigned = .ok (some { unsigned with roles := [] }) := by decide +kernel
  exact ⟨h, (SignatureValidation.refiltering_harmless_iff h).2.2.1 (.inl rfl)⟩

end RefilteringSample

end MetadataTrust
