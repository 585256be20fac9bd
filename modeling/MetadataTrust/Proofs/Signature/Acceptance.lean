import MetadataTrust.Filter.SignatureValidation
import MetadataTrust.Proofs.Outcome

/-!
# When a signature on metadata is accepted

`SignatureValidation.Accepts` says it without trying credentials one after another: some credential
that the resolver gives, wherever it stands, is good for the signature.  `verify_eq_ok_iff` and
`apply_eq_ok_iff` tie this to the filter.  `acceptance_iff_some_credential` puts together what follows
for entities, for their roles, and for resolvers that give the same credentials in another order.
-/

namespace MetadataTrust

namespace SignatureValidation

/-- What makes a credential `k` among `ks` good for the signature `s` on an object, when `names` are
the trusted names for it.  Canonical content exists for every object. -/
structure AcceptedBy (v : SignatureValidation) (s : Signature) (o : SignedObject) (names : NameSet)
    (ks : List Credential) (k : Credential) : Prop where
  profile : s.checkProfile o.signable.id? = .ok ()
  names_eq : v.namesFor o = .ok names
  resolved : v.credentials { keyInfo := some (s.keyInfo.getD {}), usage := some .signing } = .ok ks
  mem : k ∈ ks
  valid : v.validator.validateContent s o.signable.canonicalContent k = .ok ()
  named : names = ∅ ∨ ∃ n ∈ names, n ∈ k.keyNames

/-- The signature `s` on an object is acceptable: some credential is good for it. -/
def Accepts (v : SignatureValidation) (s : Signature) (o : SignedObject) : Prop :=
  ∃ names ks k, v.AcceptedBy s o names ks k

/-- An entity may pass: its signature is acceptable, or it needs none and has none. -/
def Passes (v : SignatureValidation) (e : Entity) : Prop :=
  match e.signature with
  | some s => v.Accepts s (.entity e)
  | none => v.requireSignature = false

/-- A role may stay: it is not signed, or its signature is acceptable when its owner is seen without
any roles. -/
def Retains (v : SignatureValidation) (owner : Entity) (r : Role) : Prop :=
  ∀ s, r.signature = some s → v.Accepts s (.role { owner with roles := [] } r)

section Attempts

variable {v : SignatureValidation} {s : Signature} {content : Octets} {names : NameSet}

/-! ### Trying credentials -/

lemma isEmpty_iff : names.isEmpty = true ↔ names = ∅ := by
  rw [SortedSet.isEmpty, List.isEmpty_iff]
  exact ⟨fun h => SortedSet.ext_toList h, fun h => h ▸ rfl⟩

lemma hasAnyName_iff {k : Credential} :
    k.hasAnyName names.toList = true ↔ ∃ n ∈ names, n ∈ k.keyNames := by
  simp [Credential.hasAnyName, SortedSet.mem_def]

theorem attempt_eq_ok_iff {k : Credential} :
    v.attempt s content names k = .ok () ↔
      v.validator.validateContent s content k = .ok () ∧
        (names = ∅ ∨ ∃ n ∈ names, n ∈ k.keyNames) := by
  have hname : (names.isEmpty || k.hasAnyName names.toList) = true ↔
      names = ∅ ∨ ∃ n ∈ names, n ∈ k.keyNames := by
    rw [Bool.or_eq_true, isEmpty_iff, hasAnyName_iff]
  unfold attempt
  rw [Except.unit_bind_eq_ok_iff, Except.mapError_eq_ok_iff, ← hname]
  simp

/-- **Some credential succeeds, wherever it stands in the list.**  What was tried before it only
changes the reason that is told if all fail. -/
theorem attemptAll_eq_ok_iff {ks : List Credential} {tried : Nat} {reason : Rejection} :
    v.attemptAll s content names tried reason ks = .ok () ↔
      ∃ k ∈ ks, v.attempt s content names k = .ok () := by
  induction ks generalizing tried reason with
  | nil => simp [attemptAll]
  | cons k ks ih =>
    unfold attemptAll
    cases hk : v.attempt s content names k with
    | ok u => simp [hk]
    | error failure =>
      rw [ih]
      simp [hk]

end Attempts

/-! ### One signature -/

section Verify

variable {v : SignatureValidation} {s : Signature} {o : SignedObject}

theorem verify_eq_ok_iff : v.verify s o = .ok () ↔ v.Accepts s o := by
  unfold verify
  constructor
  · intro h
    obtain ⟨hprofile, h⟩ := Except.unit_bind_eq_ok_iff.1 h
    obtain ⟨names, hnames, h⟩ := Except.bind_eq_ok_iff.1 h
    obtain ⟨ks, hks, h⟩ := Except.bind_eq_ok_iff.1 h
    obtain ⟨k, hk, hattempt⟩ := attemptAll_eq_ok_iff.1 (Except.mapError_eq_ok_iff.1 h)
    obtain ⟨hvalid, hnamed⟩ := attempt_eq_ok_iff.1 hattempt
    exact ⟨names, ks, k, Except.mapError_eq_ok_iff.1 hprofile, hnames,
      Except.mapError_eq_ok_iff.1 hks, hk, hvalid, hnamed⟩
  · rintro ⟨names, ks, k, h⟩
    refine Except.unit_bind_eq_ok_iff.2 ⟨Except.mapError_eq_ok_iff.2 h.profile, ?_⟩
    refine Except.bind_eq_ok_iff.2 ⟨names, h.names_eq, ?_⟩
    refine Except.bind_eq_ok_iff.2 ⟨ks, Except.mapError_eq_ok_iff.2 h.resolved, ?_⟩
    exact Except.mapError_eq_ok_iff.2
      (attemptAll_eq_ok_iff.2 ⟨k, h.mem, attempt_eq_ok_iff.2 ⟨h.valid, h.named⟩⟩)

instance : Decidable (v.Accepts s o) := decidable_of_iff _ verify_eq_ok_iff

/-- More credentials do no harm: an acceptable signature stays acceptable when others are resolved
beside those that were, in any place. -/
theorem Accepts.mono {credentials : Resolver Credential} (h : v.Accepts s o)
    (hsub : ∀ c ks, v.credentials c = .ok ks → ∃ ls, credentials c = .ok ls ∧ ks ⊆ ls) :
    Accepts { v with credentials := credentials } s o := by
  obtain ⟨names, ks, k, h⟩ := h
  obtain ⟨ls, hls, hk⟩ := hsub _ _ h.resolved
  exact ⟨names, ls, k, h.profile, h.names_eq, hls, hk h.mem, h.valid, h.named⟩

end Verify

/-! ### An entity and its roles -/

section Apply

variable {v : SignatureValidation} {e : Entity}

lemma keepsRole_iff {r : Role} : v.keepsRole { e with roles := [] } r = true ↔ v.Retains e r := by
  unfold keepsRole Retains
  cases r.signature with
  | none => simp
  | some s => simp [Except.isOk_iff, verify_eq_ok_iff]

instance (r : Role) : Decidable (v.Retains e r) := decidable_of_iff _ keepsRole_iff

/-- The entity without the roles that may not stay. -/
def trimmed (v : SignatureValidation) (e : Entity) : Entity :=
  { e with roles := e.roles.filter fun r => v.Retains e r }

lemma apply_eq (v : SignatureValidation) (e : Entity) :
    v.apply e = (match e.signature with
      | some s => v.verify s (.entity e)
      | none => if v.requireSignature then .error (reject .unsigned) else .ok ()) >>= fun _ =>
        .ok (some (v.trimmed e)) := by
  have hkeep : v.keepsRole { e with roles := [] } = fun r => decide (v.Retains e r) := by
    funext r
    rw [Bool.eq_iff_iff, keepsRole_iff, decide_eq_true_iff]
  unfold apply trimmed
  rw [hkeep]
  cases e.signature with
  | some s => rfl
  | none => cases v.requireSignature <;> rfl

/-- **The filter passes an entity on exactly if it may pass, and then removes the roles that may not
stay.**  It never drops an entity silently. -/
theorem apply_eq_ok_iff {out : Option Entity} :
    v.apply e = .ok out ↔ v.Passes e ∧ out = some (v.trimmed e) := by
  rw [apply_eq, Except.unit_bind_eq_ok_iff]
  have hpass : (match e.signature with
      | some s => v.verify s (.entity e)
      | none => if v.requireSignature then .error (reject .unsigned) else .ok ()) = .ok () ↔
      v.Passes e := by
    unfold Passes
    cases e.signature with
    | some s => exact verify_eq_ok_iff
    | none => cases v.requireSignature <;> simp
  rw [hpass, Except.ok.injEq, eq_comm]

lemma Passes.accepts {s : Signature} (h : v.Passes e) (hs : e.signature = some s) :
    v.Accepts s (.entity e) := by
  unfold Passes at h
  rwa [hs] at h

lemma apply_eq_error_of_verify {s : Signature} {err : MetadataError} (hs : e.signature = some s)
    (h : v.verify s (.entity e) = .error err) : v.apply e = .error err := by
  rw [apply_eq, hs]
  simp only [h]
  rfl

/-! ### Other credentials -/

/-- Two answers of a resolver hold the same items, in whatever order and however often each; or both
are failures. -/
def SameItems {α : Type} : Except ResolutionError (List α) → Except ResolutionError (List α) → Prop
  | .ok as, .ok bs => ∀ a, a ∈ as ↔ a ∈ bs
  | .error _, .error _ => True
  | _, _ => False

lemma SameItems.symm {α : Type} {x y : Except ResolutionError (List α)} (h : SameItems x y) :
    SameItems y x := by
  cases x <;> cases y <;> simp_all [SameItems]

lemma SameItems.exists_ok {α : Type} {x y : Except ResolutionError (List α)} (h : SameItems x y)
    {as : List α} (hx : x = .ok as) : ∃ bs, y = .ok bs ∧ as ⊆ bs := by
  subst hx
  cases y with
  | error err => exact h.elim
  | ok bs => exact ⟨bs, rfl, fun a ha => (h a).1 ha⟩

/-- The resolver `credentials` gives at least what that of `v` gives. -/
def GivesMore (v : SignatureValidation) (credentials : Resolver Credential) : Prop :=
  ∀ c ks, v.credentials c = .ok ks → ∃ ls, credentials c = .ok ls ∧ ks ⊆ ls

variable {credentials : Resolver Credential}

lemma Passes.mono (h : v.Passes e) (hmore : v.GivesMore credentials) :
    Passes { v with credentials := credentials } e := by
  unfold Passes at h ⊢
  cases hs : e.signature with
  | none => simpa [hs] using h
  | some s =>
    rw [hs] at h
    exact Accepts.mono h hmore

lemma Retains.mono {r : Role} (h : v.Retains e r) (hmore : v.GivesMore credentials) :
    Retains { v with credentials := credentials } e r :=
  fun s hs => Accepts.mono (h s hs) hmore

lemma trimmed_roles_sublist (hmore : v.GivesMore credentials) :
    (v.trimmed e).roles.Sublist (trimmed { v with credentials := credentials } e).roles := by
  refine List.monotone_filter_right e.roles fun r hr => ?_
  exact decide_eq_true (Retains.mono (of_decide_eq_true hr) hmore)

lemma apply_eq_ok_of_givesMore {f : Entity} (h : v.apply e = .ok (some f))
    (hmore : v.GivesMore credentials) :
    ∃ g, apply { v with credentials := credentials } e = .ok (some g) ∧ f.roles.Sublist g.roles := by
  obtain ⟨hpass, hf⟩ := apply_eq_ok_iff.1 h
  obtain rfl := Option.some.inj hf
  exact ⟨_, apply_eq_ok_iff.2 ⟨hpass.mono hmore, rfl⟩, trimmed_roles_sublist hmore⟩

lemma trimmed_congr (hmore : v.GivesMore credentials)
    (hless : GivesMore { v with credentials := credentials } v.credentials) :
    trimmed { v with credentials := credentials } e = v.trimmed e := by
  have hroles : (trimmed { v with credentials := credentials } e).roles = (v.trimmed e).roles :=
    (trimmed_roles_sublist hless).antisymm (trimmed_roles_sublist hmore)
  exact congrArg (fun roles => { e with roles := roles }) hroles

end Apply

/-- **The acceptance condition.**  A signed entity passes exactly if its signature keeps to the
profile, trusted names are known for it, credentials are resolved for the signature's `KeyInfo` and
signing, and one of them, wherever it stands, verifies the content and bears a trusted name if there
are any.  An unsigned one passes exactly if none is required to be signed.  What passes keeps just the
roles that are unsigned or meet the same conditions.  Neither the order nor the multiplicity of the
credentials matters, and further ones never do harm. -/
theorem acceptance_iff_some_credential (v : SignatureValidation) (e : Entity) :
    (∀ s, e.signature = some s →
      ((∃ f, v.apply e = .ok (some f)) ↔
        (Signable.entity e).checkProfile = .ok () ∧
        ∃ names, v.namesFor (.entity e) = .ok names ∧
        ∃ ks, v.credentials { keyInfo := some (s.keyInfo.getD {}), usage := some .signing } = .ok ks ∧
        ∃ k ∈ ks, v.validator.validateContent s (Signable.entity e).canonicalContent k = .ok () ∧
          (names = ∅ ∨ ∃ n ∈ names, n ∈ k.keyNames))) ∧
    (e.signature = none → ((∃ f, v.apply e = .ok (some f)) ↔ v.requireSignature = false)) ∧
    (∀ f, v.apply e = .ok (some f) →
      f = { e with roles := e.roles.filter fun r => v.Retains e r }) ∧
    (∀ credentials : Resolver Credential, (∀ c, SameItems (v.credentials c) (credentials c)) →
      ∀ f, apply { v with credentials := credentials } e = .ok (some f) ↔
        v.apply e = .ok (some f)) ∧
    (∀ credentials : Resolver Credential, v.GivesMore credentials →
      ∀ f, v.apply e = .ok (some f) →
        ∃ g, apply { v with credentials := credentials } e = .ok (some g) ∧
          f.roles.Sublist g.roles) := by
  have hpass : (∃ f, v.apply e = .ok (some f)) ↔ v.Passes e := by
    simp [apply_eq_ok_iff]
  refine ⟨?_, ?_, ?_, ?_, ?_⟩
  · intro s hs
    have hprofile : (Signable.entity e).checkProfile = s.checkProfile e.id := by
      simp only [Signable.checkProfile, Signable.signature?, hs, Signable.id?]
    rw [hpass, Passes, hs, hprofile]
    constructor
    · rintro ⟨names, ks, k, h⟩
      exact ⟨h.profile, names, h.names_eq, ks, h.resolved, k, h.mem, h.valid, h.named⟩
    · rintro ⟨hp, names, hnames, ks, hks, k, hk, hvalid, hnamed⟩
      exact ⟨names, ks, k, hp, hnames, hks, hk, hvalid, hnamed⟩
  · intro hs
    rw [hpass, Passes, hs]
  · intro f h
    exact Option.some.inj (apply_eq_ok_iff.1 h).2
  · intro credentials hsame f
    have hmore : v.GivesMore credentials := fun c ks hks => (hsame c).exists_ok hks
    have hless : GivesMore { v with credentials := credentials } v.credentials :=
      fun c ks hks => (hsame c).symm.exists_ok hks
    rw [apply_eq_ok_iff, apply_eq_ok_iff, trimmed_congr hmore hless]
    exact and_congr_left' ⟨fun h => h.mono hless, fun h => h.mono hmore⟩
  · intro credentials hmore f h
    exact apply_eq_ok_of_givesMore h hmore

end SignatureValidation

end MetadataTrust
