import MetadataTrust.Proofs.Configuration.Chain

/-!
# When a filter passes on a resolver's failure

A resolver that fails is noticed only where a signature gets as far as asking for credentials.  The
verification passes the failure on if the signature is that of the entity.  If it is that of a role, the
role is taken out like any other that is not accepted (`not_retains_of_unresolved`).  No other filter
reports a resolver's failure.
-/

namespace MetadataTrust

namespace SignatureValidation

/-- The verification of `s` on an object gets as far as asking for credentials, and the resolver fails
with `err`. -/
structure Unresolved (v : SignatureValidation) (s : Signature) (o : SignedObject)
    (err : ResolutionError) : Prop where
  profile : s.checkProfile o.signable.id? = .ok ()
  named : ∃ names, v.namesFor o = .ok names
  failed : v.credentials { keyInfo := some (s.keyInfo.getD {}), usage := some .signing } = .error err

section Verify

variable {v : SignatureValidation} {s : Signature} {o : SignedObject} {err : ResolutionError}

lemma namesFor_ne_resolution : v.namesFor o ≠ .error (.resolution err) := by
  unfold namesFor
  intro h
  split at h
  · cases h
  · split at h
    · cases h
    · split at h <;> cases h

/-- **A verification fails as the resolver does exactly if it asks the resolver.** -/
theorem verify_eq_resolution_iff : v.verify s o = .error (.resolution err) ↔ v.Unresolved s o err := by
  unfold verify
  constructor
  · intro h
    rcases Except.bind_eq_error_iff.1 h with h | ⟨_, hprofile, h⟩
    · obtain ⟨fault, -, hfault⟩ := Except.mapError_eq_error_iff.1 h
      cases hfault
    · rcases Except.bind_eq_error_iff.1 h with h | ⟨names, hnames, h⟩
      · exact absurd h namesFor_ne_resolution
      · rcases Except.bind_eq_error_iff.1 h with h | ⟨ks, -, h⟩
        · obtain ⟨err', hfailed, herr⟩ := Except.mapError_eq_error_iff.1 h
          obtain rfl := MetadataError.resolution.inj herr
          exact ⟨Except.mapError_eq_ok_iff.1 hprofile, ⟨names, hnames⟩, hfailed⟩
        · obtain ⟨reason, -, hreason⟩ := Except.mapError_eq_error_iff.1 h
          cases hreason
  · rintro ⟨hprofile, ⟨names, hnames⟩, hfailed⟩
    refine Except.bind_eq_error_iff.2 (.inr ⟨(), Except.mapError_eq_ok_iff.2 hprofile, ?_⟩)
    refine Except.bind_eq_error_iff.2 (.inr ⟨names, hnames, ?_⟩)
    exact Except.bind_eq_error_iff.2
      (.inl (Except.mapError_eq_error_iff.2 ⟨err, hfailed, rfl⟩))

lemma Unresolved.not_accepts (h : v.Unresolved s o err) : ¬ v.Accepts s o := by
  intro haccepts
  have hok := verify_eq_ok_iff.2 haccepts
  rw [verify_eq_resolution_iff.2 h] at hok
  cases hok

/-- What another resolver finds acceptable is acceptable, or could not be resolved, if that resolver
gives nothing else where this one does not fail. -/
theorem Accepts.or_unresolved {online : Resolver Credential}
    (hagree : ∀ q ks, v.credentials q = .ok ks → online q = .ok ks)
    (h : Accepts { v with credentials := online } s o) :
    v.Accepts s o ∨ ∃ err, v.Unresolved s o err := by
  obtain ⟨names, ks, k, h⟩ := h
  rcases Except.ok_or_error
    (v.credentials { keyInfo := some (s.keyInfo.getD {}), usage := some .signing }) with
    ⟨ls, hls⟩ | ⟨err, herr⟩
  · have heq : ls = ks := Except.ok.inj ((hagree _ _ hls).symm.trans h.resolved)
    exact .inl ⟨names, ls, k, h.profile, h.names_eq, hls, heq ▸ h.mem, h.valid, h.named⟩
  · exact .inr ⟨err, h.profile, ⟨names, h.names_eq⟩, herr⟩

end Verify

/-! ### An entity and its roles -/

section Apply

variable {v : SignatureValidation} {e : Entity} {err : ResolutionError}

/-- The failure of the resolver for the entity's own signature is the only one that the filter tells
of. -/
theorem apply_eq_resolution_iff :
    v.apply e = .error (.resolution err) ↔
      ∃ s, e.signature = some s ∧ v.Unresolved s (.entity e) err := by
  rw [apply_eq, Except.bind_eq_error_iff]
  cases e.signature with
  | none => cases v.requireSignature <;> simp [reject]
  | some s => simp [verify_eq_resolution_iff]

/-- A role whose signature could not be resolved is taken out. -/
theorem not_retains_of_unresolved {r : Role} {s : Signature} (hs : r.signature = some s)
    (h : v.Unresolved s (.role { e with roles := [] } r) err) : ¬ v.Retains e r :=
  fun hretains => h.not_accepts (hretains s hs)

/-- No signed role of the entity meets a failure of the resolver. -/
def ResolvesRoles (v : SignatureValidation) (e : Entity) : Prop :=
  ∀ r ∈ e.roles, ∀ s, r.signature = some s →
    ∀ err, ¬ v.Unresolved s (.role { e with roles := [] } r) err

/-- **Where no role meets a failure, the filter makes of an entity what it would make with a resolver
that never failed.** -/
theorem apply_eq_of_online {online : Resolver Credential}
    (hagree : ∀ q ks, v.credentials q = .ok ks → online q = .ok ks)
    (hroles : v.Passes e → v.ResolvesRoles e) {out : Option Entity} (h : v.apply e = .ok out) :
    apply { v with credentials := online } e = .ok out := by
  have hmore : v.GivesMore online := fun q ks hks => ⟨ks, hagree q ks hks, List.Subset.refl ks⟩
  obtain ⟨hpass, rfl⟩ := apply_eq_ok_iff.1 h
  refine apply_eq_ok_iff.2 ⟨hpass.mono hmore, ?_⟩
  have hsame : ∀ r ∈ e.roles, v.Retains e r ↔ Retains { v with credentials := online } e r := by
    intro r hr
    refine ⟨fun hretains => hretains.mono hmore, fun hretains s hs => ?_⟩
    rcases (hretains s hs).or_unresolved hagree with haccepts | ⟨err, hfailed⟩
    · exact haccepts
    · exact absurd hfailed (hroles hpass r hr s hs err)
  have hfilter : e.roles.filter (fun r => v.Retains e r) =
      e.roles.filter (fun r => Retains { v with credentials := online } e r) :=
    List.filter_congr fun r hr => decide_eq_decide.2 (hsame r hr)
  simp only [trimmed, hfilter]

end Apply

end SignatureValidation

/-! ### The other filters -/

section Build

variable {parts : FilterParts} {engine : String} {f : MetadataFilter} {now : Instant} {e : Entity}
  {err : ResolutionError}

lemma requiredExpiry_ne_resolution {bound : Option ValidityBound} :
    (requiredExpiry bound).apply now e ≠ .error (.resolution err) := by
  intro h
  unfold requiredExpiry at h
  cases hexpiry : e.validUntil with
  | none => simp [hexpiry] at h
  | some expiry =>
    cases bound with
    | none => simp [hexpiry] at h
    | some b =>
      by_cases hlong : b.seconds * 1000000000 < expiry.totalNanos - now.totalNanos
      · simp [hexpiry, hlong] at h
      · simp [hexpiry, hlong] at h

/-- With other credentials settings set up a filter that makes the same of an entity, where no role
meets a failure. -/
theorem FilterSettings.build_apply_eq_of_online {online : Resolver Credential}
    {settings : FilterSettings} {f' : MetadataFilter} {out : Option Entity}
    (hagree : ∀ q ks, parts.credentials q = .ok ks → online q = .ok ks)
    (hbuild : settings.build parts engine = .ok f)
    (hbuild' : settings.build { parts with credentials := online } engine = .ok f')
    (hroles : ∀ required names script policy, settings = .signatureValidation required names script →
      script.mapM (·.compile parts engine) = .ok policy →
      (parts.validation required names policy).Passes e →
      (parts.validation required names policy).ResolvesRoles e)
    (h : f.apply now e = .ok out) : f'.apply now e = .ok out := by
  cases settings with
  | signatureValidation required names script =>
    obtain ⟨policy, hpolicy, rfl⟩ := build_signatureValidation_eq_ok_iff.1 hbuild
    obtain ⟨policy', hpolicy', rfl⟩ := build_signatureValidation_eq_ok_iff.1 hbuild'
    obtain rfl := Except.ok.inj (hpolicy.symm.trans hpolicy')
    exact SignatureValidation.apply_eq_of_online hagree (hroles _ _ _ _ rfl hpolicy) h
  | roleSelection retained dropRoleless =>
    obtain rfl := Except.ok.inj (hbuild.symm.trans hbuild')
    exact h
  | requiredExpiry maxSeconds =>
    have hsame : f = f' := by
      cases maxSeconds <;> exact Except.ok.inj (hbuild.symm.trans hbuild')
    exact hsame ▸ h
  | entityIds included excluded =>
    obtain rfl := Except.ok.inj (hbuild.symm.trans hbuild')
    exact h

/-- **Only a verification of signatures reports a resolver's failure**, and does so for the entity's own
signature. -/
theorem FilterSettings.build_eq_resolution_iff {settings : FilterSettings}
    (hbuild : settings.build parts engine = .ok f) :
    f.apply now e = .error (.resolution err) ↔
      ∃ required names script policy s, settings = .signatureValidation required names script ∧
        script.mapM (·.compile parts engine) = .ok policy ∧ e.signature = some s ∧
        (parts.validation required names policy).Unresolved s (.entity e) err := by
  cases settings with
  | signatureValidation required names script =>
    obtain ⟨policy, hpolicy, rfl⟩ := build_signatureValidation_eq_ok_iff.1 hbuild
    constructor
    · intro h
      obtain ⟨s, hs, hfailed⟩ := SignatureValidation.apply_eq_resolution_iff.1 h
      exact ⟨required, names, script, policy, s, rfl, hpolicy, hs, hfailed⟩
    · rintro ⟨required', names', script', policy', s, heq, hpolicy', hs, hfailed⟩
      cases heq
      obtain rfl := Except.ok.inj (hpolicy.symm.trans hpolicy')
      exact SignatureValidation.apply_eq_resolution_iff.2 ⟨s, hs, hfailed⟩
  | roleSelection retained dropRoleless =>
    obtain rfl := Except.pure_eq_ok_iff.1 hbuild
    simp [RoleSelection.filter]
  | requiredExpiry maxSeconds =>
    have hne : f.apply now e ≠ .error (.resolution err) := by
      cases maxSeconds with
      | none =>
        obtain rfl := Except.pure_eq_ok_iff.1 hbuild
        exact requiredExpiry_ne_resolution
      | some n =>
        simp only [build] at hbuild
        split at hbuild
        · obtain rfl := Except.pure_eq_ok_iff.1 hbuild
          exact requiredExpiry_ne_resolution
        · cases hbuild
    simp [hne]
  | entityIds included excluded =>
    obtain rfl := Except.pure_eq_ok_iff.1 hbuild
    simp [EntityIdPredicate.filter]

end Build

end MetadataTrust
