import MetadataTrust.Proofs.Filter.Unresolved
import MetadataTrust.Proofs.Metadata.Refresh

/-!
# Refreshing a store while credentials cannot be resolved

A refresh fails as the resolver does exactly if the configuration aborts on errors and the failure
meets an entity's own signature.  In all other cases the refresh goes on: without the entity, or
without the role whose signature could not be resolved (`outage_surfaces_iff`).
-/

namespace MetadataTrust

/-! ### How far a chain gets -/

/-- Filters that are set up one after another make `g` of `e` before they come to the verification
`v`. -/
def FilterParts.Reaches (parts : FilterParts) (engine : String) (abort : Bool) (now : Instant)
    (all : List FilterSettings) (e g : Entity) (v : SignatureValidation) : Prop :=
  ∃ before required names script after fs policy,
    all = before ++ .signatureValidation required names script :: after ∧
    before.mapM (·.build parts engine) = .ok fs ∧
    FilterChain.run abort now fs e = .ok (some g) ∧
    script.mapM (·.compile parts engine) = .ok policy ∧ v = parts.validation required names policy

section Reaches

variable {parts : FilterParts} {engine : String} {abort : Bool} {now : Instant}
  {first : FilterSettings} {all : List FilterSettings} {f : MetadataFilter} {fs : List MetadataFilter}
  {e m g : Entity} {v : SignatureValidation} {err : ResolutionError}

lemma FilterParts.reaches_head {required : Bool} {names : List String}
    {script : Option ScriptSettings} {policy : Option ScriptedPolicy}
    (hpolicy : script.mapM (·.compile parts engine) = .ok policy) :
    parts.Reaches engine abort now (.signatureValidation required names script :: all) e e
      (parts.validation required names policy) :=
  ⟨[], required, names, script, all, [], policy, rfl, rfl, rfl, hpolicy, rfl⟩

lemma FilterParts.Reaches.cons (h : parts.Reaches engine abort now all m g v)
    (hbuild : first.build parts engine = .ok f) (hf : f.apply now e = .ok (some m)) :
    parts.Reaches engine abort now (first :: all) e g v := by
  obtain ⟨before, required, names, script, after, fs, policy, rfl, hfs, hrun, hpolicy, rfl⟩ := h
  refine ⟨first :: before, required, names, script, after, f :: fs, policy, rfl, ?_, ?_, hpolicy, rfl⟩
  · exact Except.mapM_cons_eq_ok_iff.2 ⟨f, fs, hbuild, hfs, rfl⟩
  · exact (FilterChain.run_cons_of_ok hf).trans hrun

/-- A verification that is reached stands in the chain behind the filters that were passed. -/
lemma FilterParts.Reaches.split (h : parts.Reaches engine abort now all e g v)
    (hfs : all.mapM (·.build parts engine) = .ok fs) :
    ∃ before after, fs = before ++ v.filter :: after ∧
      FilterChain.run abort now before e = .ok (some g) := by
  obtain ⟨before, required, names, script, after, gs, policy, rfl, hgs, hrun, hpolicy, rfl⟩ := h
  obtain ⟨gs', rest, hgs', hrest, rfl⟩ := Except.mapM_append_eq_ok_iff.1 hfs
  obtain ⟨f, more, hf, -, rfl⟩ := Except.mapM_cons_eq_ok_iff.1 hrest
  obtain rfl := Except.ok.inj (hgs.symm.trans hgs')
  obtain ⟨policy', hpolicy', rfl⟩ := build_signatureValidation_eq_ok_iff.1 hf
  obtain rfl := Except.ok.inj (hpolicy.symm.trans hpolicy')
  exact ⟨gs, more, rfl, hrun⟩

/-- **A chain fails as the resolver does exactly if it aborts and the failure meets the entity's own
signature** as earlier filters left the entity. -/
theorem run_eq_resolution_iff (hfs : all.mapM (·.build parts engine) = .ok fs) :
    FilterChain.run abort now fs e = .error (.resolution err) ↔
      abort = true ∧ ∃ g v s, parts.Reaches engine abort now all e g v ∧ g.signature = some s ∧
        v.Unresolved s (.entity g) err := by
  rw [FilterChain.run_eq_error_iff]
  refine and_congr_right fun _ => ⟨?_, ?_⟩
  · rintro ⟨before, f, after, g, rfl, hrun, hf⟩
    obtain ⟨earlier, settings, later, rfl, hearlier, hbuild⟩ := Except.mapM_eq_ok_append hfs
    obtain ⟨required, names, script, policy, s, rfl, hpolicy, hs, hfailed⟩ :=
      (FilterSettings.build_eq_resolution_iff hbuild).1 hf
    exact ⟨g, _, s, ⟨earlier, required, names, script, later, before, policy, rfl, hearlier, hrun,
      hpolicy, rfl⟩, hs, hfailed⟩
  · rintro ⟨g, v, s, hreaches, hs, hfailed⟩
    obtain ⟨before, after, rfl, hrun⟩ := hreaches.split hfs
    exact ⟨before, v.filter, after, g, rfl, hrun,
      SignatureValidation.apply_eq_resolution_iff.2 ⟨s, hs, hfailed⟩⟩

/-- What comes through a chain came through every verification that it reached. -/
lemma FilterParts.Reaches.sublist_trimmed (h : parts.Reaches engine abort now all e g v)
    (hfs : all.mapM (·.build parts engine) = .ok fs)
    (hrun : FilterChain.run abort now fs e = .ok (some m)) :
    m.roles.Sublist (v.trimmed g).roles := by
  obtain ⟨before, after, rfl, hg⟩ := h.split hfs
  obtain ⟨g', hg', hrest⟩ := FilterChain.run_append_eq_ok_some_iff.1 hrun
  obtain rfl := Option.some.inj (Except.ok.inj (hg.symm.trans hg'))
  obtain ⟨t, ht, hrest⟩ := FilterChain.run_cons_eq_ok_some_iff.1 hrest
  obtain rfl := Option.some.inj (SignatureValidation.apply_eq_ok_iff.1 ht).2
  refine (FilterChain.run_trims (fun f hf => ?_) hrest).roles
  obtain ⟨settings, -, hbuild⟩ := Except.mapM_mem_right hfs
    (List.mem_append_right before (List.mem_cons_of_mem _ hf))
  exact FilterSettings.build_onlyTrims hbuild

/-- A chain that does not abort drops an entity whose signature could not be resolved. -/
lemma FilterParts.Reaches.run_eq_none {s : Signature}
    (h : parts.Reaches engine false now all e g v)
    (hfs : all.mapM (·.build parts engine) = .ok fs) (hs : g.signature = some s)
    (hfailed : v.Unresolved s (.entity g) err) : FilterChain.run false now fs e = .ok none := by
  obtain ⟨before, after, rfl, hg⟩ := h.split hfs
  have hv : v.filter.apply now g = .error (.resolution err) :=
    SignatureValidation.apply_eq_resolution_iff.2 ⟨s, hs, hfailed⟩
  rw [FilterChain.run_append, hg]
  simp [FilterChain.run, hv]

/-- **Where no role meets a failure, a chain that aborts makes of an entity what it would make with a
resolver that never failed.**  The induction is on the settings, over any entity. -/
theorem run_eq_of_online {online : Resolver Credential} {fs' : List MetadataFilter}
    {out : Option Entity} (hagree : ∀ q ks, parts.credentials q = .ok ks → online q = .ok ks)
    (hfs : all.mapM (·.build parts engine) = .ok fs)
    (hfs' : all.mapM (·.build { parts with credentials := online } engine) = .ok fs')
    (hroles : ∀ g v, parts.Reaches engine true now all e g v → v.Passes g → v.ResolvesRoles g)
    (h : FilterChain.run true now fs e = .ok out) : FilterChain.run true now fs' e = .ok out := by
  induction all generalizing fs fs' e with
  | nil =>
    obtain rfl := Except.ok.inj hfs
    obtain rfl := Except.ok.inj hfs'
    exact h
  | cons first all ih =>
    obtain ⟨f, more, hf, hmore, rfl⟩ := Except.mapM_cons_eq_ok_iff.1 hfs
    obtain ⟨f', more', hf', hmore', rfl⟩ := Except.mapM_cons_eq_ok_iff.1 hfs'
    have hstep : ∀ out, f.apply now e = .ok out → f'.apply now e = .ok out := by
      intro out hout
      refine FilterSettings.build_apply_eq_of_online hagree hf hf' ?_ hout
      rintro required names script policy rfl hpolicy
      exact hroles e _ (FilterParts.reaches_head hpolicy)
    -- a filter that fails ends the run, so the two chains have to agree only on what succeeds
    cases happly : f.apply now e with
    | error err => simp [FilterChain.run, happly] at h
    | ok kept =>
      cases kept with
      | none => simpa [FilterChain.run, happly, hstep none happly] using h
      | some m =>
        rw [FilterChain.run_cons_of_ok happly] at h
        rw [FilterChain.run_cons_of_ok (hstep _ happly)]
        exact ih hmore hmore' (fun g v hreaches => hroles g v (hreaches.cons hf happly)) h

end Reaches

/-! ### Refreshes -/

namespace Configuration

/-- On the way of `e` through the filters a verification cannot resolve credentials for the entity's own
signature. -/
def FailsToResolve (c : Configuration) (parts : FilterParts) (now : Instant) (e : Entity)
    (err : ResolutionError) : Prop :=
  ∃ g v s, parts.Reaches c.defaultEngine c.abortOnFilterError now c.filters e g v ∧
    g.signature = some s ∧ v.Unresolved s (.entity g) err

/-- On the way of `e` through the filters a verification that the entity passes cannot resolve
credentials for the signature of the role `r`. -/
def FailsToResolveRole (c : Configuration) (parts : FilterParts) (now : Instant) (e : Entity) (r : Role)
    (err : ResolutionError) : Prop :=
  ∃ g v s, parts.Reaches c.defaultEngine c.abortOnFilterError now c.filters e g v ∧ v.Passes g ∧
    r ∈ g.roles ∧ r.signature = some s ∧ v.Unresolved s (.role { g with roles := [] } r) err

variable {c : Configuration} {parts : FilterParts} {chain : FilterChain} {now : Instant} {e : Entity}
  {err : ResolutionError}

theorem chain_eq_resolution_iff (hchain : c.chain parts = .ok chain) :
    chain.apply now e = .error (.resolution err) ↔
      c.abortOnFilterError = true ∧ c.FailsToResolve parts now e err := by
  obtain ⟨hfs, habort⟩ := chain_eq_ok_iff.1 hchain
  unfold FilterChain.apply FailsToResolve
  rw [habort]
  exact run_eq_resolution_iff hfs

lemma FailsToResolve.apply_eq_none (hchain : c.chain parts = .ok chain)
    (habort : c.abortOnFilterError = false) (h : c.FailsToResolve parts now e err) :
    chain.apply now e = .ok none := by
  obtain ⟨hfs, hsame⟩ := chain_eq_ok_iff.1 hchain
  obtain ⟨g, v, s, hreaches, hs, hfailed⟩ := h
  unfold FilterChain.apply
  rw [habort] at hreaches hsame
  rw [hsame]
  exact hreaches.run_eq_none hfs hs hfailed

lemma FailsToResolveRole.not_mem (hchain : c.chain parts = .ok chain) {r : Role}
    (h : c.FailsToResolveRole parts now e r err) {m : Entity}
    (hm : chain.apply now e = .ok (some m)) : r ∉ m.roles := by
  obtain ⟨hfs, habort⟩ := chain_eq_ok_iff.1 hchain
  obtain ⟨g, v, s, hreaches, -, -, hs, hfailed⟩ := h
  unfold FilterChain.apply at hm
  rw [habort] at hm
  intro hr
  have hkept := (hreaches.sublist_trimmed hfs hm).subset hr
  exact SignatureValidation.not_retains_of_unresolved hs hfailed
    (of_decide_eq_true (List.mem_filter.1 hkept).2)

end Configuration

section Outage

variable {c : Configuration} {parts : FilterParts} {chain : FilterChain} {s : MetadataStore}
  {now : Instant} {batch : List Entity}

lemma MetadataStore.sift_eq {e : Entity} (hs : s.filter = some chain.toFilter) :
    s.sift now e = chain.apply now e := by
  simp only [sift, hs, FilterChain.toFilter]

theorem refresh_eq_resolution_iff {err : ResolutionError} (hchain : c.chain parts = .ok chain)
    (hs : s.filter = some chain.toFilter) :
    (s.refresh now batch).1 = .error (.resolution err) ↔
      c.abortOnFilterError = true ∧
        ∃ e, s.ComesTo now batch e ∧ c.FailsToResolve parts now e err := by
  rw [MetadataStore.refresh_eq_error_iff, MetadataStore.filtered_eq_error_iff]
  simp only [MetadataStore.sift_eq hs, Configuration.chain_eq_resolution_iff hchain]
  constructor
  · rintro ⟨e, he, habort, hfails⟩
    exact ⟨habort, e, he, hfails⟩
  · rintro ⟨habort, e, he, hfails⟩
    exact ⟨e, he, habort, hfails⟩

/-- A refresh never fails if the chain does not abort. -/
theorem refresh_ok_of_not_abort (habort : chain.abortOnError = false)
    (hs : s.filter = some chain.toFilter) : ∃ n, (s.refresh now batch).1 = .ok n := by
  rcases Except.ok_or_error (s.refresh now batch).1 with hok | ⟨err, herr⟩
  · exact hok
  · obtain ⟨e, -, he⟩ :=
      MetadataStore.filtered_eq_error_iff.1 (MetadataStore.refresh_eq_error_iff.1 herr)
    rw [MetadataStore.sift_eq hs] at he
    have habort' := (FilterChain.run_eq_error_iff.1 he).1
    rw [habort] at habort'
    cases habort'

theorem filtered_eq_of_online {online : Resolver Credential} {chain' : FilterChain}
    {s' : MetadataStore} {next : Snapshot}
    (hagree : ∀ q ks, parts.credentials q = .ok ks → online q = .ok ks)
    (hchain : c.chain parts = .ok chain)
    (hchain' : c.chain { parts with credentials := online } = .ok chain')
    (habort : c.abortOnFilterError = true)
    (hroles : ∀ e ∈ batch, ∀ r err, ¬ c.FailsToResolveRole parts now e r err)
    (hs : s.filter = some chain.toFilter) (hs' : s'.filter = some chain'.toFilter)
    (h : s.filtered now batch = .ok next) : s'.filtered now batch = .ok next := by
  obtain ⟨hfs, hsame⟩ := Configuration.chain_eq_ok_iff.1 hchain
  obtain ⟨hfs', hsame'⟩ := Configuration.chain_eq_ok_iff.1 hchain'
  refine MetadataStore.filtered_eq_ok_of_imp (fun e he out hout => ?_) h
  rw [MetadataStore.sift_eq hs', FilterChain.apply, hsame', habort]
  rw [MetadataStore.sift_eq hs, FilterChain.apply, hsame, habort] at hout
  refine run_eq_of_online hagree hfs hfs' ?_ hout
  intro g v hreaches hpass r hr sig hsig err hfailed
  exact hroles e he r err ⟨g, v, sig, habort ▸ hreaches, hpass, hr, hsig, hfailed⟩

/-- **A refresh fails as the resolver does exactly if the configuration aborts on errors and the
failure meets the own signature of an entity that the refresh comes to**; the store then stays as it was.
Without aborting the refresh succeeds and lacks such an entity.  A role whose signature could not be
resolved is lacking either way.  With aborting, and where no role is lacking so, a successful refresh
gives what it would give with a resolver that never failed. -/
theorem outage_surfaces_iff (hchain : c.chain parts = .ok chain) (id : String)
    (snapshot : Option Snapshot) (now : Instant) (batch : List Entity) :
    let s : MetadataStore := ⟨id, some chain.toFilter, snapshot⟩
    (∀ err, (s.refresh now batch).1 = .error (.resolution err) ↔
      c.abortOnFilterError = true ∧
        ∃ e, s.ComesTo now batch e ∧ c.FailsToResolve parts now e err) ∧
    (∀ err, (s.refresh now batch).1 = .error err → (s.refresh now batch).2 = s) ∧
    (c.abortOnFilterError = false → (∃ n, (s.refresh now batch).1 = .ok n) ∧
      ∀ e err, c.FailsToResolve parts now e err → s.sift now e = .ok none) ∧
    (∀ e r err, c.FailsToResolveRole parts now e r err →
      ∀ m, s.sift now e = .ok (some m) → r ∉ m.roles) ∧
    ∀ (online : Resolver Credential) (chain' : FilterChain),
      (∀ q ks, parts.credentials q = .ok ks → online q = .ok ks) →
      c.chain { parts with credentials := online } = .ok chain' → c.abortOnFilterError = true →
      (∀ e ∈ batch, ∀ r err, ¬ c.FailsToResolveRole parts now e r err) →
      ∀ n, (s.refresh now batch).1 = .ok n →
        (MetadataStore.refresh ⟨id, some chain'.toFilter, snapshot⟩ now batch).1 = .ok n ∧
        (MetadataStore.refresh ⟨id, some chain'.toFilter, snapshot⟩ now batch).2.snapshot =
          (s.refresh now batch).2.snapshot := by
  intro s
  refine ⟨fun err => refresh_eq_resolution_iff hchain rfl,
    fun err => MetadataStore.refresh_snd_of_error, ?_, ?_, ?_⟩
  · intro habort
    have hchainAbort := (Configuration.chain_eq_ok_iff.1 hchain).2.trans habort
    exact ⟨refresh_ok_of_not_abort hchainAbort rfl,
      fun e err hfails => hfails.apply_eq_none hchain habort⟩
  · intro e r err hfails m hm
    exact hfails.not_mem hchain hm
  · intro online chain' hagree hchain' habort hroles n hn
    obtain ⟨next, hnext, hlength⟩ := MetadataStore.refresh_eq_ok_iff.1 hn
    have hnext' : MetadataStore.filtered ⟨id, some chain'.toFilter, snapshot⟩ now batch = .ok next :=
      filtered_eq_of_online hagree hchain hchain' habort hroles rfl rfl hnext
    rw [MetadataStore.refresh_of_ok hnext', MetadataStore.refresh_of_ok hnext]
    exact ⟨congrArg Except.ok hlength, rfl⟩

end Outage

/-! ### A store that is offline -/

namespace OutageSample

def offline : FilterParts where
  credentials := fun _ => .error (.unavailable "store offline")

def signature : Signature where
  algorithm := SignatureAlgorithm.ed25519.uri
  signedInfo := []
  value := []
  references := [{}]

def signedEntity : Entity where
  entityId := "https://idp.example.org"
  signature := some signature

def signedRole : Role where
  elementType := ⟨"urn:md", "IDP", none⟩
  supportedProtocols := ["urn:p"]
  signature := some signature

def ownerOfSigned : Entity where
  entityId := "https://idp.example.org"
  roles := [signedRole]

def configuration (abort : Bool) : Configuration where
  abortOnFilterError := abort
  filters := [.signatureValidation false [] none]

def chain (abort : Bool) : FilterChain where
  filters := [(offline.validation false [] none).filter]
  abortOnError := abort

def store (abort : Bool) : MetadataStore where
  id := "md"
  filter := some (chain abort).toFilter

def evening : Instant := ⟨⟨2031, 1, 2⟩, 18, 30, 0, 0, by decide, by decide⟩

lemma signedEntity_fails (abort : Bool) :
    (configuration abort).FailsToResolve offline evening signedEntity (.unavailable "store offline") :=
  ⟨signedEntity, offline.validation false [] none, signature, FilterParts.reaches_head rfl, rfl,
    ⟨by decide, ⟨∅, rfl⟩, rfl⟩⟩

lemma signedRole_fails (abort : Bool) :
    (configuration abort).FailsToResolveRole offline evening ownerOfSigned signedRole
      (.unavailable "store offline") :=
  ⟨ownerOfSigned, offline.validation false [] none, signature, FilterParts.reaches_head rfl,
    rfl, List.mem_singleton_self _, rfl, ⟨by decide, ⟨∅, rfl⟩, rfl⟩⟩

/-- With aborting, a refresh with a signed entity tells that the store is offline. -/
theorem refresh_tells_outage :
    (configuration true).chain offline = .ok (chain true) ∧
    ((store true).refresh evening [signedEntity]).1 =
      .error (.resolution (.unavailable "store offline")) := by
  have hchain : (configuration true).chain offline = .ok (chain true) := rfl
  refine ⟨hchain, ((outage_surfaces_iff hchain "md" none evening [signedEntity]).1 _).2 ⟨rfl, ?_⟩⟩
  exact ⟨signedEntity, ⟨[], [], rfl, by simp⟩, signedEntity_fails true⟩

/-- Without aborting, a refresh succeeds while the store is offline, with nothing left.  With aborting,
it still succeeds if it is a role that is signed, and the role is gone. -/
theorem refresh_hides_outage :
    (configuration false).FailsToResolve offline evening signedEntity (.unavailable "store offline") ∧
    ((store false).refresh evening [signedEntity]).1 = .ok 0 ∧
    (configuration true).FailsToResolveRole offline evening ownerOfSigned signedRole
      (.unavailable "store offline") ∧
    ((store true).refresh evening [ownerOfSigned]).1 = .ok 1 ∧
    ((store true).refresh evening [ownerOfSigned]).2.resolver {} =
      .ok [{ ownerOfSigned with roles := [] }] := by
  refine ⟨signedEntity_fails false, by decide +kernel, signedRole_fails true, by decide +kernel, ?_⟩
  decide +kernel

end OutageSample

end MetadataTrust
