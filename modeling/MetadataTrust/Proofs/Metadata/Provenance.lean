import MetadataTrust.Proofs.Configuration.Chain
import MetadataTrust.Proofs.KeyInfo.LocalTrust
import MetadataTrust.Proofs.Metadata.Refresh
import MetadataTrust.Proofs.Signature.References

/-!
# Where the contents of a store come from

A store whose configured filters verify signatures against credentials that are held locally gives out
only entities that were offered by the last successful refresh and that a held credential vouched for.
This holds wherever the verification stands among the filters and after any run of refreshes.
-/

namespace MetadataTrust

/-! ### What a held credential vouches for -/

/-- The signature `s` binds an object to the signed octets by its one reference `r`, and its value is
good for them under the key of `k`. -/
structure Signable.SignedBy (o : Signable) (s : Signature) (r : ContentReference) (k : Credential) :
    Prop where
  signature : o.signature? = some s
  references : s.references = [r]
  digest : digest r.digestAlgorithm o.canonicalContent = .ok r.digestValue
  covered : ∃ a b, s.signedInfo =
    a ++ Octets.ofText ("DigestValue>" ++ Base64.encode r.digestValue ++ "<") ++ b
  value : ∃ a key, SignatureAlgorithm.ofUri? s.algorithm = some a ∧ k.publicKey = some key ∧
    key.algorithm = a.keyAlgorithm ∧ a.verify key s.signedInfo s.value = .ok ()

/-- An entry of the store `held`, meant for signing or for anything, signed the object, and bears a
name that `v` trusts for it if there are any. -/
def SignatureValidation.VouchedFor (v : SignatureValidation) (held : CredentialStore)
    (o : SignedObject) : Prop :=
  ∃ s r k, o.signable.SignedBy s r k ∧ k ∈ held.credentials ∧
    (k.usage = .signing ∨ k.usage = .unspecified) ∧
    ∃ names, v.namesFor o = .ok names ∧ (names = ∅ ∨ ∃ n ∈ names, n ∈ k.keyNames)

lemma KeyUsage.compatible_signing_iff {u : KeyUsage} :
    u.compatible .signing = true ↔ u = .signing ∨ u = .unspecified := by
  cases u <;> decide

/-- The parts of filters that verify signatures, with the default validator, against the entries of a
store that the providers point at. -/
def FilterParts.holding (held : CredentialStore) (providers : List KeyInfoProvider)
    (engines : EngineRegistry) (files : Files) : FilterParts where
  credentials := localKeyInfoResolver providers held.resolver
  engines := engines
  files := files

section Holding

variable {held : CredentialStore} {providers : List KeyInfoProvider} {engines : EngineRegistry}
  {files : Files} {required : Bool} {names : List String} {policy : Option ScriptedPolicy}

/-- An acceptable signature is one that a held credential vouches for. -/
theorem SignatureValidation.Accepts.vouchedFor {s : Signature} {o : SignedObject}
    (h : ((FilterParts.holding held providers engines files).validation required names
      policy).Accepts s o) (hs : o.signable.signature? = some s) :
    ((FilterParts.holding held providers engines files).validation required names
      policy).VouchedFor held o := by
  obtain ⟨trusted, ks, k, h⟩ := h
  obtain ⟨r, hr, -, -⟩ := Signature.checkProfile_eq_ok_iff.1 h.profile
  obtain ⟨hrefs, hvalue⟩ := defaultValidator_eq_ok_iff.1 h.valid
  obtain ⟨-, hall⟩ := Signature.verifyReferences_eq_ok_iff.1 hrefs
  obtain ⟨-, hdigest, a, b, hcovered⟩ :=
    ContentReference.verify_eq_ok_iff.1 (hall r (by rw [hr]; exact List.mem_singleton_self r))
  obtain ⟨hheld, husage⟩ := mem_of_localKeyInfoResolver h.resolved h.mem
  refine ⟨s, r, k, ⟨hs, hr, hdigest, ⟨a, b, hcovered.symm⟩, ?_⟩, hheld, ?_, trusted, h.names_eq,
    h.named⟩
  · exact validateSignature_eq_ok_iff.1 hvalue
  · exact KeyUsage.compatible_signing_iff.1 husage

/-- What the verification passes on is vouched for, and so are its signed roles. -/
theorem SignatureValidation.vouchedFor_of_apply {e e' : Entity}
    (h : ((FilterParts.holding held providers engines files).validation true names policy).apply e =
      .ok (some e')) :
    ((FilterParts.holding held providers engines files).validation true names policy).VouchedFor held
      (.entity e) ∧
    ∀ q ∈ e'.roles, q.signature.isSome →
      ((FilterParts.holding held providers engines files).validation true names policy).VouchedFor
        held (.role { e with roles := [] } q) := by
  obtain ⟨hpass, he'⟩ := apply_eq_ok_iff.1 h
  obtain rfl := Option.some.inj he'
  constructor
  · cases hs : e.signature with
    | none =>
      rw [Passes, hs] at hpass
      cases hpass
    | some s => exact (hpass.accepts hs).vouchedFor hs
  · intro q hq hsigned
    obtain ⟨s, hs⟩ := Option.isSome_iff_exists.1 hsigned
    have hretains := of_decide_eq_true (List.mem_filter.1 hq).2
    exact Accepts.vouchedFor (hretains s hs) hs

end Holding

/-! ### The contents of a store -/

/-- What is known of an entity `f` that the filters of a configuration, run at a moment, made of `e`.
It differs from `e` by roles taken out.  When the verification that follows the filters `before` came to
it, these had made `g` of it; a held credential had signed `g` as it then stood, and every signed role
that is left. -/
structure Entity.VerifiedFrom (c : Configuration) (parts : FilterParts) (held : CredentialStore)
    (before : List FilterSettings) (names : List String) (script : Option ScriptSettings)
    (now : Instant) (f e : Entity) : Prop where
  entityId_eq : f.entityId = e.entityId
  id_eq : f.id = e.id
  validUntil_eq : f.validUntil = e.validUntil
  signature_eq : f.signature = e.signature
  roles_sublist : f.roles.Sublist e.roles
  vouchedFor : ∃ fs g policy,
    before.mapM (·.build parts c.defaultEngine) = .ok fs ∧
    FilterChain.run c.abortOnFilterError now fs e = .ok (some g) ∧ f.roles.Sublist g.roles ∧
    script.mapM (·.compile parts c.defaultEngine) = .ok policy ∧
    (parts.validation true names policy).VouchedFor held (.entity g) ∧
    ∀ q ∈ f.roles, q.signature.isSome →
      (parts.validation true names policy).VouchedFor held (.role { g with roles := [] } q)

section Contents

variable {c : Configuration} {chain : FilterChain} {held : CredentialStore}
  {providers : List KeyInfoProvider} {engines : EngineRegistry} {files : Files}
  {before after : List FilterSettings} {names : List String} {script : Option ScriptSettings}

/-- What a chain passes on was vouched for, wherever the verification stands among the filters. -/
theorem verifiedFrom_of_chain
    (hfilters : c.filters = before ++ .signatureValidation true names script :: after)
    (hchain : c.chain (.holding held providers engines files) = .ok chain) {now : Instant}
    {e f : Entity} (h : chain.apply now e = .ok (some f)) :
    f.VerifiedFrom c (.holding held providers engines files) held before names script now e := by
  obtain ⟨fs, v, gs, hbefore, hv, hsplit⟩ := Configuration.chain_split hchain hfilters
  obtain ⟨policy, hpolicy, rfl⟩ := build_signatureValidation_eq_ok_iff.1 hv
  have honly := Configuration.chain_onlyTrims hchain
  -- the run through the chain, cut before and after the verification
  unfold FilterChain.apply at h
  have htrims : f.Trims e := FilterChain.run_trims honly h
  rw [hsplit, (Configuration.chain_eq_ok_iff.1 hchain).2] at h
  obtain ⟨g, hg, hrest⟩ := FilterChain.run_append_eq_ok_some_iff.1 h
  obtain ⟨m, hm, hrest⟩ := FilterChain.run_cons_eq_ok_some_iff.1 hrest
  have hmg : m.Trims g := SignatureValidation.filter_onlyTrims _ now g m hm
  have hfm : f.Trims m := by
    refine FilterChain.run_trims (fun f' hf' => honly f' ?_) hrest
    rw [hsplit]
    exact List.mem_append_right _ (List.mem_cons_of_mem _ hf')
  obtain ⟨hentity, hroles⟩ := SignatureValidation.vouchedFor_of_apply hm
  exact ⟨htrims.entityId_eq, htrims.id_eq, htrims.validUntil_eq, htrims.signature_eq, htrims.roles,
    fs, g, policy, hbefore, hg, hfm.roles.trans hmg.roles, hpolicy, hentity,
    fun q hq => hroles q (hfm.roles.subset hq)⟩

/-- **Every entity that a store gives out was offered by the last successful refresh and vouched
for** by a credential that is held locally, after any run of refreshes of a store that started
empty. -/
theorem resolved_was_vouchedFor
    (hfilters : c.filters = before ++ .signatureValidation true names script :: after)
    (hchain : c.chain (.holding held providers engines files) = .ok chain)
    {id : String} {calls : List RefreshCall} {criteria : Criteria} {found : List Entity} {f : Entity}
    (hfound : (MetadataStore.refreshAll ⟨id, some chain.toFilter, none⟩ calls).resolver criteria =
      .ok found) (hf : f ∈ found) :
    ∃ earlier call later,
      MetadataStore.LastSuccess ⟨id, some chain.toFilter, none⟩ calls earlier call later ∧
      ∃ e ∈ call.batch,
        f.VerifiedFrom c (.holding held providers engines files) held before names script call.now
          e := by
  obtain ⟨snapshot, hsnapshot, hmem⟩ := MetadataStore.mem_of_resolver hfound hf
  obtain ⟨earlier, call, later, hlast, e, he, hsift⟩ :=
    MetadataStore.mem_refreshAll rfl hsnapshot hmem
  exact ⟨earlier, call, later, hlast, e, he, verifiedFrom_of_chain hfilters hchain hsift⟩

end Contents

/-! ### A store at work -/

namespace VouchedSample

/-- A key that is held locally under the name `signer`. -/
def held : CredentialStore where
  credentials := [{
    usage := .signing
    publicKey := some ⟨Der.encodeRsaKey {
      modulus := 0xb920a17398ca3ece15f5c823098382104e96037d1c048808e8bf3dee5d77dc9939e4b975078daabbcc8ab477430d
      exponent := 3 }, by decide +kernel⟩
    keyNames := .ofList ["signer"] }]

def idp : QName := ⟨"urn:md", "IDP", none⟩

def sp : QName := ⟨"urn:md", "SP", none⟩

/-- An entity that the holder of the key signed. -/
def signed : Entity where
  entityId := "https://idp.example.org"
  id := some "_1"
  roles := [⟨idp, none, ["urn:p"], none, [], none, {}, none⟩, ⟨sp, none, ["urn:p"], none, [], none, {}, none⟩]
  signature := some {
    algorithm := SignatureAlgorithm.rsaSha1.uri
    signedInfo := Octets.ofText "<DigestValue>OyXuYxLcvOv8RVbtDaXGZKMuEVk=</DigestValue>"
    value := Octets.ofNat 46
      0xb287aeb114b6052fe149f663ecc7e110e8b7d96e05b899593c9f937d4c16ab9d10941dc322905b85c80ee2148dbf
    keyInfo := some { children := [.keyName "signer"] }
    references := [{
      uri := "#_1"
      digestAlgorithm := DigestAlgorithm.sha1.uri
      digestValue := Octets.ofNat 20 0x3b25ee6312dcbcebfc4556ed0da5c664a32e1159 }] }

/-- Verification stands between two other filters, and a failure fails the whole refresh. -/
def configuration : Configuration where
  abortOnFilterError := true
  filters := [.entityIds [] ["https://banned.example.org"], .signatureValidation true ["signer"] none,
    .roleSelection [idp] true]

def parts : FilterParts := .holding held [] .builtIn .none

def chain : FilterChain where
  filters := [EntityIdPredicate.filter ⟨∅, .ofList ["https://banned.example.org"]⟩,
    (parts.validation true ["signer"] none).filter, RoleSelection.filter ⟨[idp], true⟩]
  abortOnError := true

def noon : Instant := ⟨⟨2030, 6, 1⟩, 12, 0, 0, 0, by decide, by decide⟩

/-- The second refresh fails, as its entity is not signed. -/
def calls : List RefreshCall := [⟨noon, [signed]⟩, ⟨noon, [{ signed with signature := none }]⟩]

/-- After a successful refresh and a failing one the store gives out the signed entity with the role that
the last filter left, and it was vouched for. -/
theorem signed_was_vouchedFor :
    configuration.chain parts = .ok chain ∧
    (MetadataStore.refreshAll ⟨"md", some chain.toFilter, none⟩ calls).resolver {} =
      .ok [{ signed with roles := signed.roles.take 1 }] ∧
    ∃ earlier call later,
      MetadataStore.LastSuccess ⟨"md", some chain.toFilter, none⟩ calls earlier call later ∧
      ∃ e ∈ call.batch, Entity.VerifiedFrom configuration parts held
        [.entityIds [] ["https://banned.example.org"]] ["signer"] none call.now
        { signed with roles := signed.roles.take 1 } e := by
  have hchain : configuration.chain parts = .ok chain := rfl
  have hfound : (MetadataStore.refreshAll ⟨"md", some chain.toFilter, none⟩ calls).resolver {} =
      .ok [{ signed with roles := signed.roles.take 1 }] := by decide +kernel
  exact ⟨hchain, hfound,
    resolved_was_vouchedFor rfl hchain hfound (List.mem_singleton_self _)⟩

end VouchedSample

end MetadataTrust
