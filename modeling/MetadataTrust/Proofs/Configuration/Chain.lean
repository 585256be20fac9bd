import MetadataTrust.Configuration.Pipeline
import MetadataTrust.Proofs.Filter.Trimming

/-!
# The chain that a configuration sets up

It has one filter for each setting, in order, and all of them only trim.
-/

namespace MetadataTrust

/-- The verification of signatures that settings ask for, with a policy that was compiled. -/
def FilterParts.validation (parts : FilterParts) (requireSignature : Bool) (names : List String)
    (policy : Option ScriptedPolicy) : SignatureValidation where
  credentials := parts.credentials
  validator := parts.validator
  requireSignature := requireSignature
  trustedNames := .ofList names
  policy := policy.map (·.policy)

section Build

variable {parts : FilterParts} {engine : String} {f : MetadataFilter}

lemma build_signatureValidation_eq_ok_iff {required : Bool} {names : List String}
    {script : Option ScriptSettings} :
    (FilterSettings.signatureValidation required names script).build parts engine = .ok f ↔
      ∃ policy, script.mapM (·.compile parts engine) = .ok policy ∧
        f = (parts.validation required names policy).filter := by
  unfold FilterSettings.build
  rw [Except.bind_eq_ok_iff]
  simp only [Except.pure_eq_ok_iff, eq_comm (b := f)]
  rfl

theorem FilterSettings.build_onlyTrims {settings : FilterSettings}
    (h : settings.build parts engine = .ok f) : f.OnlyTrims := by
  cases settings with
  | signatureValidation required names script =>
    obtain ⟨policy, -, rfl⟩ := build_signatureValidation_eq_ok_iff.1 h
    exact SignatureValidation.filter_onlyTrims _
  | roleSelection retained dropRoleless =>
    obtain rfl := Except.pure_eq_ok_iff.1 h
    exact RoleSelection.filter_onlyTrims _
  | requiredExpiry maxSeconds =>
    cases maxSeconds with
    | none =>
      obtain rfl := Except.pure_eq_ok_iff.1 h
      exact requiredExpiry_onlyTrims _
    | some n =>
      simp only [build] at h
      split at h
      · obtain rfl := Except.pure_eq_ok_iff.1 h
        exact requiredExpiry_onlyTrims _
      · cases h
  | entityIds included excluded =>
    obtain rfl := Except.pure_eq_ok_iff.1 h
    exact EntityIdPredicate.filter_onlyTrims _

end Build

namespace Configuration

variable {c : Configuration} {parts : FilterParts} {chain : FilterChain}

theorem chain_eq_ok_iff :
    c.chain parts = .ok chain ↔
      c.filters.mapM (·.build parts c.defaultEngine) = .ok chain.filters ∧
        chain.abortOnError = c.abortOnFilterError := by
  unfold Configuration.chain
  rw [Except.bind_eq_ok_iff]
  constructor
  · rintro ⟨fs, hfs, h⟩
    obtain rfl := Except.pure_eq_ok_iff.1 h
    exact ⟨hfs, rfl⟩
  · rintro ⟨hfs, habort⟩
    exact ⟨chain.filters, hfs, by rw [← habort]; rfl⟩

theorem chain_onlyTrims (h : c.chain parts = .ok chain) : ∀ f ∈ chain.filters, f.OnlyTrims := by
  intro f hf
  obtain ⟨settings, -, hbuild⟩ := Except.mapM_mem_right (chain_eq_ok_iff.1 h).1 hf
  exact FilterSettings.build_onlyTrims hbuild

/-- Settings in the middle of a configuration set up the filter in the middle of the chain. -/
theorem chain_split {before after : List FilterSettings} {settings : FilterSettings}
    (h : c.chain parts = .ok chain) (hfilters : c.filters = before ++ settings :: after) :
    ∃ fs f gs, before.mapM (·.build parts c.defaultEngine) = .ok fs ∧
      settings.build parts c.defaultEngine = .ok f ∧ chain.filters = fs ++ f :: gs := by
  have hfs := (chain_eq_ok_iff.1 h).1
  rw [hfilters] at hfs
  obtain ⟨fs, rest, hbefore, hrest, heq⟩ := Except.mapM_append_eq_ok_iff.1 hfs
  obtain ⟨f, gs, hf, -, rfl⟩ := Except.mapM_cons_eq_ok_iff.1 hrest
  exact ⟨fs, f, gs, hbefore, hf, heq⟩

end Configuration

end MetadataTrust
