import MetadataTrust.Proofs.Filter.TrustPolicy

/-!
# What a policy that fails does

A policy takes part in the verification of a signed object through the trusted names for it, so that
each object is judged as a filter without any policy would judge it: with the names that were computed
or, where the policy failed, with the static ones.  Where it failed and there are no static names, no
signature is accepted.  `FallsBack` says this of any outcome of the filter on an object, and
`policy_failure_contained` of what becomes of an entity and of its roles.
-/

namespace MetadataTrust

namespace SignatureValidation

/-- The same filter with the given names as its static ones and without a policy. -/
def withNames (v : SignatureValidation) (names : NameSet) : SignatureValidation :=
  { v with trustedNames := names, policy := none }

/-- What the filter says of an entity itself, whatever becomes of its roles. -/
def verdict (v : SignatureValidation) (e : Entity) : Except MetadataError Unit :=
  (v.apply e).map fun _ => ()

/-- An outcome of the filter on the object `o` depends on the policy only by the names for it: those
that are computed take the place of the static ones, which decide where there are none computed.  If
there are no static ones either, the object is rejected. -/
structure FallsBack {α : Type} (v : SignatureValidation) (policy : TrustPolicy) (o : SignedObject)
    (outcome : SignatureValidation → α) (rejected : α → Prop) : Prop where
  computed : ∀ names, policy o = some names → outcome v = outcome (v.withNames names)
  static : policy o = none → v.trustedNames ≠ ∅ → outcome v = outcome { v with policy := none }
  closed : policy o = none → v.trustedNames = ∅ → rejected (outcome v)

section Verify

variable {v w : SignatureValidation} {s : Signature} {o : SignedObject} {policy : TrustPolicy}
  {names : NameSet} {err : MetadataError}

/-! ### Trusted names -/

lemma namesFor_withNames : (v.withNames names).namesFor o = .ok names := rfl

lemma namesFor_without_policy : namesFor { v with policy := none } o = .ok v.trustedNames := rfl

/-- Trusted names are unknown exactly where the policy fails and there are no static ones. -/
lemma namesFor_eq_error_iff (h : v.policy = some policy) :
    v.namesFor o = .error err ↔
      policy o = none ∧ v.trustedNames = ∅ ∧ err = reject .trustedNamesUnknown := by
  unfold namesFor
  rw [h]
  cases hnames : policy o with
  | some computed => simp [hnames]
  | none =>
    simp only [hnames, isEmpty_iff]
    by_cases hempty : v.trustedNames = ∅
    · simp [hempty, eq_comm]
    · simp [hempty]

/-! ### One signature -/

lemma attempt_congr {content : Octets} {k : Credential} (h : v.validator = w.validator) :
    v.attempt s content names k = w.attempt s content names k := by
  unfold attempt
  rw [h]

lemma attemptAll_congr {content : Octets} {tried : Nat} {reason : Rejection} {ks : List Credential}
    (h : v.validator = w.validator) :
    v.attemptAll s content names tried reason ks = w.attemptAll s content names tried reason ks := by
  induction ks generalizing tried reason with
  | nil => rfl
  | cons k ks ih => simp only [attemptAll, attempt_congr h, ih]

/-- **Two filters with the same names for an object verify its signature with the same outcome**, the
reason for a rejection included, if they use the same credentials and validator. -/
theorem verify_congr (hcredentials : v.credentials = w.credentials)
    (hvalidator : v.validator = w.validator) (hnames : v.namesFor o = w.namesFor o) :
    v.verify s o = w.verify s o := by
  simp only [verify, hcredentials, hnames, attemptAll_congr hvalidator]

/-- Without trusted names the object is rejected: for its signature's profile, or for the names. -/
lemma verify_of_names_unknown {reason : Rejection} (h : v.namesFor o = .error (reject reason)) :
    ∃ reason, v.verify s o = .error (reject reason) := by
  unfold verify
  cases s.checkProfile o.signable.id? with
  | error fault => exact ⟨.profileViolated fault, rfl⟩
  | ok =>
    rw [h]
    exact ⟨reason, rfl⟩

theorem fallsBack_verify (hpolicy : v.policy = some policy) :
    v.FallsBack policy o (·.verify s o) fun out => ∃ reason, out = .error (reject reason) where
  computed names h :=
    have hnames : v.namesFor o = .ok names := (namesFor_eq_ok_iff hpolicy).2 (.inl h)
    verify_congr rfl rfl (hnames.trans namesFor_withNames.symm)
  static h hstatic :=
    have hnames : v.namesFor o = .ok v.trustedNames :=
      (namesFor_eq_ok_iff hpolicy).2 (.inr ⟨h, hstatic, rfl⟩)
    verify_congr rfl rfl (hnames.trans namesFor_without_policy.symm)
  closed h hempty := verify_of_names_unknown ((namesFor_eq_error_iff hpolicy).2 ⟨h, hempty, rfl⟩)

/-- An error of a verification is a rejection, or that of the resolver. -/
theorem verify_error_cases (h : v.verify s o = .error err) :
    (∃ reason, err = reject reason) ∨ ∃ failed, err = .resolution failed := by
  unfold verify at h
  rcases Except.bind_eq_error_iff.1 h with h | ⟨_, -, h⟩
  · obtain ⟨fault, -, rfl⟩ := Except.mapError_eq_error_iff.1 h
    exact .inl ⟨_, rfl⟩
  · rcases Except.bind_eq_error_iff.1 h with h | ⟨names, -, h⟩
    · cases hpolicy : v.policy with
      | none => simp [namesFor, hpolicy] at h
      | some policy => exact .inl ⟨_, ((namesFor_eq_error_iff hpolicy).1 h).2.2⟩
    · rcases Except.bind_eq_error_iff.1 h with h | ⟨ks, -, h⟩
      · obtain ⟨failed, -, rfl⟩ := Except.mapError_eq_error_iff.1 h
        exact .inr ⟨failed, rfl⟩
      · obtain ⟨reason, -, rfl⟩ := Except.mapError_eq_error_iff.1 h
        exact .inl ⟨reason, rfl⟩

end Verify

/-! ### An entity and its roles -/

section Apply

variable {v : SignatureValidation} {s : Signature} {e owner : Entity} {r : Role}
  {policy other : TrustPolicy} {err : MetadataError}

lemma verdict_of_signed (hs : e.signature = some s) : v.verdict e = v.verify s (.entity e) := by
  unfold verdict
  rw [apply_eq, hs]
  dsimp only
  cases v.verify s (.entity e) <;> rfl

lemma verdict_of_unsigned (hs : e.signature = none) :
    v.verdict e = if v.requireSignature then .error (reject .unsigned) else .ok () := by
  unfold verdict
  rw [apply_eq, hs]
  cases v.requireSignature <;> rfl

lemma keepsRole_of_signed (hs : r.signature = some s) :
    v.keepsRole owner r = (v.verify s (.role owner r)).isOk := by
  rw [keepsRole, hs]

/-- What the filter makes of an entity is its verdict on the entity and, for each role, whether that
one is kept. -/
lemma apply_eq_map_verdict (v : SignatureValidation) (e : Entity) :
    v.apply e = (v.verdict e).map fun _ =>
      some { e with roles := e.roles.filter (v.keepsRole { e with roles := [] }) } := by
  unfold verdict apply
  cases e.signature with
  | none => cases v.requireSignature <;> rfl
  | some s =>
    dsimp only
    cases v.verify s (.entity e) <;> rfl

theorem fallsBack_verdict (hpolicy : v.policy = some policy) (hs : e.signature = some s) :
    v.FallsBack policy (.entity e) (·.verdict e) fun out =>
      ∃ reason, out = .error (.rejected filterName reason) := by
  simp only [verdict_of_signed hs]
  exact fallsBack_verify hpolicy

theorem fallsBack_keepsRole (hpolicy : v.policy = some policy) (hs : r.signature = some s) :
    v.FallsBack policy (.role owner r) (·.keepsRole owner r) (· = false) := by
  have h : v.FallsBack policy (.role owner r) (·.verify s (.role owner r)) _ :=
    fallsBack_verify hpolicy
  simp only [keepsRole_of_signed hs]
  exact
    { computed := fun names hnames => congrArg Except.isOk (h.computed names hnames)
      static := fun hfailed hstatic => congrArg Except.isOk (h.static hfailed hstatic)
      closed := fun hfailed hempty => by
        obtain ⟨reason, hreason⟩ := h.closed hfailed hempty
        rw [hreason]
        rfl }

/-- An error of the filter is a rejection, or that of the resolver. -/
theorem apply_error_cases (h : v.apply e = .error err) :
    (∃ reason, err = reject reason) ∨ ∃ failed, err = .resolution failed := by
  rw [apply_eq] at h
  rcases Except.bind_eq_error_iff.1 h with h | ⟨_, -, h⟩
  · cases hs : e.signature with
    | none =>
      cases hrequire : v.requireSignature with
      | false => simp [hs, hrequire] at h
      | true => exact .inl ⟨.unsigned, by simpa [hs, hrequire, eq_comm] using h⟩
    | some s =>
      rw [hs] at h
      exact verify_error_cases h
  · cases h

/-! ### Another policy -/

lemma verify_congr_policy {o : SignedObject} (hpolicy : v.policy = some policy)
    (hsame : other o = policy o) : verify { v with policy := some other } s o = v.verify s o :=
  have hnames : namesFor { v with policy := some other } o = v.namesFor o := by
    simp only [namesFor, hpolicy, hsame]
  verify_congr rfl rfl hnames

lemma verdict_congr_policy (hpolicy : v.policy = some policy)
    (hsame : other (.entity e) = policy (.entity e)) :
    verdict { v with policy := some other } e = v.verdict e := by
  cases hs : e.signature with
  | none => rw [verdict_of_unsigned hs, verdict_of_unsigned hs]
  | some s =>
    rw [verdict_of_signed hs, verdict_of_signed hs]
    exact verify_congr_policy hpolicy hsame

lemma keepsRole_congr_policy (hpolicy : v.policy = some policy)
    (hsame : other (.role owner r) = policy (.role owner r)) :
    keepsRole { v with policy := some other } owner r = v.keepsRole owner r := by
  unfold keepsRole
  cases r.signature with
  | none => rfl
  | some s => exact congrArg Except.isOk (verify_congr_policy hpolicy hsame)

/-- **A policy that fails on an object is contained.**  The entity and each of its roles get a verdict
of their own.  A signed one on which the policy fails gets that of the same filter without any policy
or, if there are no static names, is rejected: the entity by an error of this filter, a role by being
taken out.  One on which the policy succeeds is judged with the names that it computed, whatever the
static ones are.  The failure itself is never told, and what the policy makes of one object does not
matter to the verdict on another.  A script fails on an object exactly if its evaluation does or its
result is not one that names are collected from. -/
theorem policy_failure_contained (hpolicy : v.policy = some policy) (e : Entity) :
    v.apply e = (v.verdict e).map (fun _ =>
      some { e with roles := e.roles.filter (v.keepsRole { e with roles := [] }) }) ∧
    (∀ s, e.signature = some s →
      v.FallsBack policy (.entity e) (·.verdict e) fun out =>
        ∃ reason, out = .error (.rejected filterName reason)) ∧
    (∀ owner r s, r.signature = some s →
      v.FallsBack policy (.role owner r) (·.keepsRole owner r) (· = false)) ∧
    (∀ engine fault, v.apply e ≠ .error (.script engine fault)) ∧
    (∀ other : TrustPolicy,
      (other (.entity e) = policy (.entity e) →
        verdict { v with policy := some other } e = v.verdict e) ∧
      ∀ owner r, other (.role owner r) = policy (.role owner r) →
        keepsRole { v with policy := some other } owner r = v.keepsRole owner r) ∧
    (∀ p : ScriptedPolicy, policy = p.policy → ∀ o,
      (policy o = none ↔ (∃ fault, p.script (p.scope o) = .error fault) ∨
        ∃ j, p.script (p.scope o) = .ok j ∧ ¬ HoldsNames j)) := by
  refine ⟨apply_eq_map_verdict v e, fun s hs => fallsBack_verdict hpolicy hs,
    fun owner r s hs => fallsBack_keepsRole hpolicy hs, ?_, ?_, ?_⟩
  · intro engine fault h
    rcases apply_error_cases h with ⟨reason, herr⟩ | ⟨failed, herr⟩
    · cases herr
    · cases herr
  · exact fun other => ⟨verdict_congr_policy hpolicy, fun owner r => keepsRole_congr_policy hpolicy⟩
  · rintro p rfl o
    exact ScriptedPolicy.policy_eq_none_iff

end Apply

end SignatureValidation

/-! ### A policy for entities alone -/

namespace EntityPolicySample

open UnseenRolesSample (owner role)

/-- Trusts `fed-signer` for entities, and fails for roles. -/
def entitiesOnly : TrustPolicy
  | .entity _ => some (.ofList ["fed-signer"])
  | .role .. => none

def validation : SignatureValidation :=
  { UnseenRolesSample.validation with policy := some entitiesOnly }

/-- A signed entity passes by the names that were computed for it, and a signed role of another one is
taken out. -/
theorem signed_role_removed :
    (validation.verdict TrustPolicySample.signed =
        (validation.withNames (.ofList ["fed-signer"])).verdict TrustPolicySample.signed ∧
      validation.apply TrustPolicySample.signed = .ok (some TrustPolicySample.signed)) ∧
    validation.keepsRole { owner with roles := [] } UnseenRolesSample.signed = false ∧
      validation.apply owner = .ok (some { owner with roles := [role] }) := by
  have hpolicy : validation.policy = some entitiesOnly := rfl
  obtain ⟨-, hentity, hrole, -⟩ :=
    SignatureValidation.policy_failure_contained hpolicy TrustPolicySample.signed
  refine ⟨⟨(hentity _ rfl).computed _ rfl, ?_⟩, (hrole _ _ _ rfl).closed rfl rfl, ?_⟩
  · decide +kernel
  · decide +kernel

end EntityPolicySample

end MetadataTrust
