import MetadataTrust.Proofs.Signature.Acceptance
import MetadataTrust.Proofs.TrustedNames

/-!
# What a policy decides

A policy says which names the signer of an object may bear.  The names that it computes go before the
static ones, which stand in only where it fails (`signer_named_or_unrestricted`).  An empty set of
names is no restriction, and a script computes one whenever it finds nothing, so that such a script
lifts the static names as well (`signer_may_be_unnamed`).

Roles are judged one by one (`trimmed_roles_append`), and their owner is shown to the policy without
any roles.  That makes no difference to a policy that does not look at them, such as a script
(`mem_roles_iff_of_ownerBlind`).
-/

namespace MetadataTrust

namespace SignatureValidation

/-- The credential that the signature `s` on an object is accepted for, should the signature keep to
the profile: the first one that succeeds. -/
def verifier? (v : SignatureValidation) (s : Signature) (o : SignedObject) : Option Credential := do
  let names ← (v.namesFor o).toOption
  let ks ← (v.credentials (lookup s)).toOption
  ks.find? fun k => (v.attempt s o.signable.canonicalContent names k).isOk

/-- The same verification with no restriction on who signs. -/
def unrestricted (v : SignatureValidation) : SignatureValidation :=
  { v with trustedNames := ∅, policy := none }

section Signer

variable {v : SignatureValidation} {s : Signature} {o : SignedObject} {e : Entity} {r : Role}
  {policy : TrustPolicy} {names : NameSet} {k : Credential}

/-! ### Names -/

lemma namesFor_eq_ok_iff (h : v.policy = some policy) :
    v.namesFor o = .ok names ↔
      policy o = some names ∨ policy o = none ∧ v.trustedNames ≠ ∅ ∧ names = v.trustedNames := by
  unfold namesFor
  rw [h]
  cases hnames : policy o with
  | some computed => simp [hnames]
  | none =>
    simp only [hnames, isEmpty_iff]
    by_cases hempty : v.trustedNames = ∅
    · simp [hempty]
    · simp [hempty, eq_comm]

lemma namesFor_unrestricted : v.unrestricted.namesFor o = .ok ∅ := rfl

/-! ### The credential that verified a signature -/

lemma attempt_isOk_iff {content : Octets} :
    (v.attempt s content names k).isOk = true ↔
      v.validator.validateContent s content k = .ok () ∧
        (names = ∅ ∨ ∃ n ∈ names, n ∈ k.keyNames) := by
  rw [Except.isOk_iff, attempt_eq_ok_iff]

lemma verifier?_eq_some_iff :
    v.verifier? s o = some k ↔ ∃ names ks, v.namesFor o = .ok names ∧
      v.credentials (lookup s) = .ok ks ∧
      ks.find? (fun k => (v.attempt s o.signable.canonicalContent names k).isOk) = some k := by
  simp [verifier?, Option.bind_eq_some_iff]

/-- What is good for a signature leads to a verifier, and the verifier is good for it. -/
theorem accepts_iff_verifier :
    v.Accepts s o ↔
      s.checkProfile o.signable.id? = .ok () ∧ ∃ k, v.verifier? s o = some k := by
  simp only [verifier?_eq_some_iff]
  constructor
  · rintro ⟨names, ks, k, h⟩
    -- some credential is good, so there is a first one that is
    have hsome : (ks.find? fun k =>
        (v.attempt s o.signable.canonicalContent names k).isOk).isSome = true :=
      List.find?_isSome.2 ⟨k, h.mem, attempt_isOk_iff.2 ⟨h.valid, h.named⟩⟩
    obtain ⟨first, hfirst⟩ := Option.isSome_iff_exists.1 hsome
    exact ⟨h.profile, first, names, ks, h.names_eq, h.resolved, hfirst⟩
  · rintro ⟨hprofile, k, names, ks, hnames, hks, hk⟩
    have hgood := List.find?_some hk
    obtain ⟨hvalid, hnamed⟩ := attempt_isOk_iff.1 hgood
    exact ⟨names, ks, k, hprofile, hnames, hks, List.mem_of_find?_eq_some hk, hvalid, hnamed⟩

lemma named_of_verifier (h : v.verifier? s o = some k) :
    ∃ names, v.namesFor o = .ok names ∧ (names = ∅ ∨ ∃ n ∈ names, n ∈ k.keyNames) := by
  obtain ⟨names, ks, hnames, -, hk⟩ := verifier?_eq_some_iff.1 h
  have hgood := List.find?_some hk
  exact ⟨names, hnames, (attempt_isOk_iff.1 hgood).2⟩

/-- The verifier bears a name that was computed or, where none were computed, a static one, unless
the computed set is empty. -/
lemma named_by_policy (hpolicy : v.policy = some policy) (h : v.verifier? s o = some k)
    (hne : policy o ≠ some ∅) : ∃ n ∈ (policy o).getD v.trustedNames, n ∈ k.keyNames := by
  obtain ⟨names, hnames, hnamed⟩ := named_of_verifier h
  rcases (namesFor_eq_ok_iff hpolicy).1 hnames with hcomputed | ⟨hfailed, hstatic, rfl⟩
  · rw [hcomputed] at hne ⊢
    exact hnamed.resolve_left fun hempty => hne (congrArg some hempty)
  · rw [hfailed]
    exact hnamed.resolve_left hstatic

/-- A policy takes part in the verification through the names only. -/
lemma Accepts.congr {w : SignatureValidation} {o' : SignedObject} (h : v.Accepts s o)
    (hsignable : o.signable = o'.signable) (hnames : v.namesFor o = w.namesFor o')
    (hcredentials : v.credentials = w.credentials) (hvalidator : v.validator = w.validator) :
    w.Accepts s o' := by
  obtain ⟨names, ks, k, h⟩ := h
  exact ⟨names, ks, k, hsignable ▸ h.profile, hnames ▸ h.names_eq, hcredentials ▸ h.resolved, h.mem,
    hvalidator ▸ hsignable ▸ h.valid, h.named⟩

lemma accepts_unrestricted_iff (h : v.namesFor o = .ok ∅) :
    v.Accepts s o ↔ v.unrestricted.Accepts s o :=
  have hnames : v.namesFor o = v.unrestricted.namesFor o := h.trans namesFor_unrestricted.symm
  ⟨fun h => h.congr rfl hnames rfl rfl, fun h => h.congr rfl hnames.symm rfl rfl⟩

lemma exists_apply_iff_accepts (hs : e.signature = some s) :
    (∃ f, v.apply e = .ok (some f)) ↔ v.Accepts s (.entity e) := by
  simp [apply_eq_ok_iff, Passes, hs]

/-- **Who signs what passes under a policy.**  If the policy did not compute an empty set for the
entity, the credential that verified it bears one of the names that were computed or, if the policy
failed, a static one; so it bears a name out of both sets together.  An empty set is no restriction:
with it the filter lets the entity pass exactly if it would with neither a policy nor static names.  A
script computes it exactly if everything that it selects is null or an empty list. -/
theorem signer_named_or_unrestricted (hpolicy : v.policy = some policy)
    (hs : e.signature = some s) :
    (∀ f, v.apply e = .ok (some f) →
      ∃ k, v.verifier? s (.entity e) = some k ∧
        (policy (.entity e) ≠ some ∅ →
          ((∃ names, policy (.entity e) = some names ∧ ∃ n ∈ names, n ∈ k.keyNames) ∨
            policy (.entity e) = none ∧ ∃ n ∈ v.trustedNames, n ∈ k.keyNames))) ∧
    (policy (.entity e) = some ∅ →
      ((∃ f, v.apply e = .ok (some f)) ↔ ∃ f, v.unrestricted.apply e = .ok (some f))) ∧
    (∀ p : ScriptedPolicy, policy = p.policy →
      (policy (.entity e) = some ∅ ↔
        ∃ results, p.script (p.scope (.entity e)) = .ok (.array results) ∧
          ∀ x ∈ results, x = .null ∨ x = .array [])) := by
  refine ⟨?_, ?_, ?_⟩
  · intro f hf
    have haccepts := (exists_apply_iff_accepts hs).1 ⟨f, hf⟩
    obtain ⟨-, k, hk⟩ := accepts_iff_verifier.1 haccepts
    refine ⟨k, hk, fun hne => ?_⟩
    have hnamed := named_by_policy hpolicy hk hne
    cases hcomputed : policy (.entity e) with
    | some names => exact .inl ⟨names, rfl, by simpa [hcomputed] using hnamed⟩
    | none => exact .inr ⟨rfl, by simpa [hcomputed] using hnamed⟩
  · intro hempty
    have hnames : v.namesFor (.entity e) = .ok ∅ := (namesFor_eq_ok_iff hpolicy).2 (.inl hempty)
    rw [exists_apply_iff_accepts hs, exists_apply_iff_accepts hs, accepts_unrestricted_iff hnames]
  · rintro p rfl
    exact ScriptedPolicy.policy_eq_empty_iff

end Signer

end SignatureValidation

/-! ### A script that finds nothing -/

namespace TrustPolicySample

/-- The path `$.custom.signers[*]`. -/
def signers : JsonPath := ⟨[.members ["custom"], .members ["signers"], .all]⟩

example : JsonPath.parse? "$.custom.signers[*]" = some signers := by decide +kernel

/-- The signers that the data of the deployment lists. -/
def listed (custom : Json) : ScriptedPolicy where
  engine := "JSONPath"
  script := fun scope => .ok (.array (signers.select scope))
  custom := custom

/-- A reference with the given digest. -/
def reference (digest : Nat) : ContentReference where
  digestAlgorithm := DigestAlgorithm.sha1.uri
  digestValue := Octets.ofNat 20 digest

/-- A signature on the content with the given digest. -/
def signature (digest : Nat) : Signature where
  algorithm := SignatureAlgorithm.ed25519.uri
  signedInfo := (reference digest).coverage
  value := []
  references := [reference digest]

def signed : Entity where
  entityId := "https://idp.example.org"
  signature := some (signature 0xf8fa74c958b86e301e869f0e919050c3a2fed980)

/-- Signatures with values that nobody checks, of a signer of the given name. -/
def validation (signer : String) (custom : Json) : SignatureValidation where
  credentials := fun _ => .ok [{ keyNames := .ofList [signer] }]
  validator := { validate := fun _ _ => .ok () }
  trustedNames := .ofList ["fed-signer"]
  policy := some (listed custom).policy

/-- The data of a deployment that lists a signer. -/
def oneListed : Json := .object [("signers", .array [.string "fed-signer-2026"])]

theorem listed_signer_named :
    ∃ s k, signed.signature = some s ∧
      (validation "fed-signer-2026" oneListed).verifier? s (.entity signed) = some k ∧
      ((∃ names, (listed oneListed).policy (.entity signed) = some names ∧
          ∃ n ∈ names, n ∈ k.keyNames) ∨
        (listed oneListed).policy (.entity signed) = none ∧
          ∃ n ∈ (validation "fed-signer-2026" oneListed).trustedNames, n ∈ k.keyNames) := by
  have haccepted : (validation "fed-signer-2026" oneListed).apply signed = .ok (some signed) := by
    decide +kernel
  obtain ⟨k, hk, hnamed⟩ :=
    (SignatureValidation.signer_named_or_unrestricted rfl rfl).1 signed haccepted
  have hcomputed : (listed oneListed).policy (.entity signed) ≠ some ∅ := by decide +kernel
  exact ⟨_, k, rfl, hk, hnamed hcomputed⟩

/-- **A signer may bear a name that neither source names**: where the script finds no signers, the
filter lets through what `mallory` signed. -/
theorem signer_may_be_unnamed :
    ¬ ∀ (v : SignatureValidation) (p : ScriptedPolicy) (e f : Entity) (s : Signature) (k : Credential),
      v.policy = some p.policy → v.trustedNames ≠ ∅ → e.signature = some s →
      v.apply e = .ok (some f) → v.verifier? s (.entity e) = some k →
      ∃ n ∈ k.keyNames, n ∈ v.trustedNames ∨
        ∃ names, p.policy (.entity e) = some names ∧ n ∈ names := by
  intro hclaim
  -- the path selects nothing, which is no failure, and so `fed-signer` does not stand in
  have hcomputed : (listed (.object [])).policy (.entity signed) = some ∅ := by decide +kernel
  obtain ⟨n, hn, hstatic | ⟨names, hnames, hn'⟩⟩ :=
    hclaim (validation "mallory" (.object [])) (listed (.object [])) signed signed _
      { keyNames := .ofList ["mallory"] } rfl (by decide) rfl (by decide +kernel) (by decide +kernel)
  · obtain rfl : n = "mallory" := by simpa using hn
    revert hstatic
    decide
  · obtain rfl := Option.some.inj (hcomputed.symm.trans hnames)
    exact SortedSet.not_mem_empty n hn'

end TrustPolicySample

/-! ## The owners of roles -/

/-- A policy that judges a role by what its owner is without any roles. -/
def TrustPolicy.OwnerBlind (policy : TrustPolicy) : Prop :=
  ∀ owner r, policy (.role owner r) = policy (.role { owner with roles := [] } r)

theorem ScriptedPolicy.ownerBlind (p : ScriptedPolicy) : TrustPolicy.OwnerBlind p.policy :=
  fun _ _ => policy_role_congr rfl

namespace SignatureValidation

section Owner

variable {v : SignatureValidation} {s : Signature} {o o' : SignedObject} {e f : Entity} {r : Role}

lemma namesFor_congr
    (h : ∀ policy, v.policy = some policy → policy o = policy o') : v.namesFor o = v.namesFor o' := by
  unfold namesFor
  cases hpolicy : v.policy with
  | none => rfl
  | some policy => simp only [h policy hpolicy]

/-- **Roles do not help or harm one another**: what is kept of two lists of roles together is what is
kept of each. -/
theorem trimmed_roles_append (e : Entity) (before after : List Role) :
    (v.trimmed { e with roles := before ++ after }).roles =
      (v.trimmed { e with roles := before }).roles ++
        (v.trimmed { e with roles := after }).roles :=
  List.filter_append before after

lemma accepts_role_iff (hblind : ∀ policy, v.policy = some policy → policy.OwnerBlind) :
    v.Accepts s (.role { e with roles := [] } r) ↔ v.Accepts s (.role e r) :=
  have hnames : v.namesFor (.role { e with roles := [] } r) = v.namesFor (.role e r) :=
    namesFor_congr fun policy hpolicy => (hblind policy hpolicy e r).symm
  ⟨fun h => h.congr rfl hnames rfl rfl, fun h => h.congr rfl hnames.symm rfl rfl⟩

/-- **Under a policy that does not look at the roles of owners, a role stays exactly if it is not
signed or its signature is acceptable beside its owner as it came.** -/
theorem mem_roles_iff_of_ownerBlind
    (hblind : ∀ policy, v.policy = some policy → policy.OwnerBlind)
    (h : v.apply e = .ok (some f)) :
    r ∈ f.roles ↔ r ∈ e.roles ∧ ∀ s, r.signature = some s → v.Accepts s (.role e r) := by
  obtain rfl := Option.some.inj (apply_eq_ok_iff.1 h).2
  simp only [trimmed, List.mem_filter, decide_eq_true_eq, Retains, accepts_role_iff hblind]

end Owner

end SignatureValidation

/-! ### A policy that counts roles -/

namespace UnseenRolesSample

open TrustPolicySample (signature)

def role : Role where
  elementType := ⟨"urn:md", "IDP", none⟩
  supportedProtocols := ["urn:p"]

def signed : Role :=
  { role with signature := some (signature 0xae30015edad82d2d639ec090e8b86859c8f97d85) }

def owner : Entity := { entityId := "https://idp.example.org", roles := [signed, role] }

/-- Trusts `fed-signer` beside other roles, and otherwise `root-signer`. -/
def severalRoles : TrustPolicy := fun o =>
  some (.ofList [if 1 < o.owner.roles.length then "fed-signer" else "root-signer"])

def validation : SignatureValidation where
  credentials := fun _ => .ok [{ keyNames := .ofList ["fed-signer"] }]
  validator := { validate := fun _ _ => .ok () }
  policy := some severalRoles

/-- The policy does not see that the owner has two roles, and the signed one is removed for a signer
that it would accept. -/
theorem removed_beside_unseen_role :
    validation.apply owner = .ok (some { owner with roles := [role] }) ∧
      ∀ s, signed.signature = some s → validation.Accepts s (.role owner signed) := by
  refine ⟨by decide +kernel, fun s hs => ?_⟩
  obtain rfl := Option.some.inj hs
  decide +kernel

end UnseenRolesSample

end MetadataTrust
