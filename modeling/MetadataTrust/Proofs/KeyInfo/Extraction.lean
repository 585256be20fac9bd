import MetadataTrust.KeyInfo.Extraction
import MetadataTrust.Proofs.Outcome

/-!
# What providers extract

A built-in provider gives one credential at most: a key without its private half, stamped with the names
and the usage of the context (`ProviderKind.process_eq_some`).  Which key it holds has nothing to do
with the names of the `KeyInfo` (`KeyInfoProvider.IgnoresNames`), so chains of such providers find the
same keys when names come and go (`extractedKeys_congr`), nor with the usage that is asked for
(`extractedKeys_usage`).
-/

namespace MetadataTrust

/-! ### One provider -/

/-- The credential `k` is a bare key with the stamp of a context: its usage, and its names among
others. -/
structure ExtractionContext.Stamps (ctx : ExtractionContext) (k : Credential) : Prop where
  entityId_eq : k.entityId = none
  usage_eq : k.usage = ctx.usage
  holdsKey : k.publicKey.isSome = true
  privateKey_eq : k.privateKey = none
  named : ∀ name ∈ ctx.keyNames, name ∈ k.keyNames

/-- The keys that a provider's outcome comes to, if `others` are those of the providers after it. -/
def keysOr (others : List PublicKey) :
    Except SecurityError (Option (List Credential)) → List PublicKey
  | .ok (some found) => found.filterMap (·.publicKey)
  | .ok none => others
  | .error _ => []

/-- The provider has no use for names: it leaves children that are names alone, and finds the same keys
whatever the names of the `KeyInfo` are. -/
structure KeyInfoProvider.IgnoresNames (p : KeyInfoProvider) : Prop where
  leavesNames : ∀ name, p.handles (.keyName name) = false
  sameKeys : ∀ child (ctx : ExtractionContext) names others,
    keysOr others (p.process child { ctx with keyNames := names }) =
      keysOr others (p.process child ctx)

/-- The provider finds the same keys whatever usage is asked for. -/
def KeyInfoProvider.IgnoresUsage (p : KeyInfoProvider) : Prop :=
  ∀ child (ctx : ExtractionContext) usage others,
    keysOr others (p.process child { ctx with usage := usage }) = keysOr others (p.process child ctx)

section BuiltIn

variable {ctx : ExtractionContext} {child : KeyInfoChild} {found : List Credential}

lemma ExtractionContext.stamps_decorate (ctx : ExtractionContext) (key : PublicKey) :
    ctx.Stamps (ctx.decorate (.ofPublicKey key)) where
  entityId_eq := rfl
  usage_eq := rfl
  holdsKey := rfl
  privateKey_eq := rfl
  named _ h := SortedSet.mem_insertMany.2 (.inr h)

lemma extractRsa_eq_some (h : extractRsa child ctx = .ok (some found)) :
    ∃ k, found = [k] ∧ ctx.Stamps k := by
  unfold extractRsa at h
  split at h
  · split at h
    · cases h
    · obtain ⟨key, -, h⟩ := Except.bind_eq_ok_iff.1 h
      obtain rfl := Option.some.inj (Except.pure_eq_ok_iff.1 h)
      exact ⟨_, rfl, ctx.stamps_decorate key⟩
  · cases h

lemma extractEncoded_eq_some (h : extractEncoded child ctx = .ok (some found)) :
    ∃ k, found = [k] ∧ ctx.Stamps k := by
  unfold extractEncoded at h
  split at h
  · obtain ⟨key, -, h⟩ := Except.bind_eq_ok_iff.1 h
    obtain rfl := Option.some.inj (Except.pure_eq_ok_iff.1 h)
    exact ⟨_, rfl, ctx.stamps_decorate key⟩
  · cases h

lemma extractCertificates_eq_some (h : extractCertificates child ctx = .ok (some found)) :
    ∃ k, found = [k] ∧ ctx.Stamps k := by
  unfold extractCertificates at h
  split at h
  · obtain ⟨key, -, h⟩ := Except.bind_eq_ok_iff.1 h
    obtain ⟨names, -, h⟩ := Except.bind_eq_ok_iff.1 h
    obtain rfl := Option.some.inj (Except.pure_eq_ok_iff.1 h)
    have hkey := ctx.stamps_decorate key
    exact ⟨_, rfl, hkey.entityId_eq, hkey.usage_eq, hkey.holdsKey, hkey.privateKey_eq,
      fun name hname => SortedSet.mem_insertMany.2 (.inl (hkey.named name hname))⟩
  · cases h

/-- **A built-in provider gives one credential at most, a bare key with the stamp of the context.** -/
theorem ProviderKind.process_eq_some {kind : ProviderKind}
    (h : kind.provider.process child ctx = .ok (some found)) : ∃ k, found = [k] ∧ ctx.Stamps k := by
  cases kind with
  | rsaKeyValue => exact extractRsa_eq_some h
  | encodedKey => exact extractEncoded_eq_some h
  | certificates => exact extractCertificates_eq_some h

/-- The context goes into the credential and has no part in which key it holds. -/
theorem ProviderKind.keysOr_process (kind : ProviderKind) (child : KeyInfoChild)
    (ctx ctx' : ExtractionContext) (others : List PublicKey) :
    keysOr others (kind.provider.process child ctx) =
      keysOr others (kind.provider.process child ctx') := by
  cases kind with
  | rsaKeyValue =>
    change keysOr others (extractRsa child ctx) = keysOr others (extractRsa child ctx')
    unfold extractRsa
    split
    · split
      · rfl
      · cases PublicKey.decode _ <;> rfl
    · rfl
  | encodedKey =>
    change keysOr others (extractEncoded child ctx) = keysOr others (extractEncoded child ctx')
    unfold extractEncoded
    split
    · cases PublicKey.decode _ <;> rfl
    · rfl
  | certificates =>
    change keysOr others (extractCertificates child ctx) =
      keysOr others (extractCertificates child ctx')
    unfold extractCertificates
    split
    · rename_i entity more
      cases entity.publicKey with
      | error err => rfl
      | ok key => cases entity.subjectNames <;> rfl
    · rfl

theorem ProviderKind.ignoresNames (kind : ProviderKind) : kind.provider.IgnoresNames where
  leavesNames name := by cases kind <;> rfl
  sameKeys child ctx names others := kind.keysOr_process child { ctx with keyNames := names } ctx others

theorem ProviderKind.ignoresUsage (kind : ProviderKind) : kind.provider.IgnoresUsage :=
  fun child ctx usage others => kind.keysOr_process child { ctx with usage := usage } ctx others

end BuiltIn

/-! ### Chains of providers -/

/-- The public keys that the providers extract, child by child in document order. -/
def extractedKeys (providers : List KeyInfoProvider) (info : KeyInfo) (usage : KeyUsage) :
    List PublicKey :=
  info.children.flatMap fun child =>
    (extractChild (.ofKeyInfo info usage) child providers).filterMap (·.publicKey)

/-- The same children apart from names, which may be added, removed, changed and moved. -/
def KeyInfo.SameButNames (info info' : KeyInfo) : Prop :=
  info.children.filter (·.name?.isNone) = info'.children.filter (·.name?.isNone)

section Chain

variable {providers : List KeyInfoProvider} {ctx : ExtractionContext} {child : KeyInfoChild}
  {info info' : KeyInfo} {usage : KeyUsage} {k : Credential}

lemma extractedKeys_eq (providers : List KeyInfoProvider) (info : KeyInfo) (usage : KeyUsage) :
    extractedKeys providers info usage =
      (extract providers info usage).filterMap (·.publicKey) :=
  List.filterMap_flatMap.symm

/-- What a chain makes of a child is what one of its providers makes of it. -/
theorem exists_provider_of_mem (h : k ∈ extractChild ctx child providers) :
    ∃ p ∈ providers, ∃ found, p.process child ctx = .ok (some found) ∧ k ∈ found := by
  induction providers with
  | nil => cases h
  | cons p more ih =>
    unfold extractChild at h
    have hmore (h : k ∈ extractChild ctx child more) :
        ∃ q ∈ p :: more, ∃ found, q.process child ctx = .ok (some found) ∧ k ∈ found := by
      obtain ⟨q, hq, found, hfound, hk⟩ := ih h
      exact ⟨q, List.mem_cons_of_mem _ hq, found, hfound, hk⟩
    split at h
    · split at h
      · rename_i found hfound
        exact ⟨p, List.mem_cons_self, found, hfound, h⟩
      · exact hmore h
      · cases h
    · exact hmore h

/-- What built-in providers extract has the stamp of the context. -/
theorem stamps_of_mem_extractChild {kinds : List ProviderKind}
    (h : k ∈ extractChild ctx child (kinds.map (·.provider))) : ctx.Stamps k := by
  obtain ⟨p, hp, found, hfound, hk⟩ := exists_provider_of_mem h
  obtain ⟨kind, -, rfl⟩ := List.mem_map.1 hp
  obtain ⟨k', rfl, hstamps⟩ := ProviderKind.process_eq_some hfound
  exact List.mem_singleton.1 hk ▸ hstamps

lemma extractChild_keyName (hnames : ∀ p ∈ providers, p.IgnoresNames) (name : String) :
    extractChild ctx (.keyName name) providers = [] := by
  induction providers with
  | nil => rfl
  | cons p more ih =>
    obtain ⟨hp, hmore⟩ := List.forall_mem_cons.1 hnames
    rw [extractChild, hp.leavesNames name, if_neg Bool.false_ne_true]
    exact ih hmore

lemma extractChild_cons_keys (p : KeyInfoProvider) (more : List KeyInfoProvider) :
    (extractChild ctx child (p :: more)).filterMap (·.publicKey) =
      if p.handles child then
        keysOr ((extractChild ctx child more).filterMap (·.publicKey)) (p.process child ctx)
      else (extractChild ctx child more).filterMap (·.publicKey) := by
  rw [extractChild]
  split
  · rcases p.process child ctx with err | _ | found <;> rfl
  · rfl

/-- Providers that find the same keys in two contexts are a chain that does. -/
lemma extractChild_keys_congr {ctx' : ExtractionContext}
    (hsame : ∀ p ∈ providers, ∀ others,
      keysOr others (p.process child ctx') = keysOr others (p.process child ctx)) :
    (extractChild ctx' child providers).filterMap (·.publicKey) =
      (extractChild ctx child providers).filterMap (·.publicKey) := by
  induction providers with
  | nil => rfl
  | cons p more ih =>
    obtain ⟨hp, hmore⟩ := List.forall_mem_cons.1 hsame
    rw [extractChild_cons_keys, extractChild_cons_keys, ih hmore, hp]

/-- **Whatever usage is asked for, the same keys are extracted**, if no provider has a use for it. -/
theorem extractedKeys_usage (husage : ∀ p ∈ providers, p.IgnoresUsage) (info : KeyInfo)
    (usage usage' : KeyUsage) :
    extractedKeys providers info usage = extractedKeys providers info usage' := by
  refine List.flatMap_congr fun child _ => extractChild_keys_congr fun p hp others => ?_
  exact husage p hp child (.ofKeyInfo info usage') usage others

/-- Only the children that are no names count, and any names may stand in the context. -/
lemma extractedKeys_eq_of_ignoresNames (hnames : ∀ p ∈ providers, p.IgnoresNames) (info : KeyInfo)
    (ctx : ExtractionContext) :
    extractedKeys providers info ctx.usage =
      (info.children.filter (·.name?.isNone)).flatMap fun child =>
        (extractChild ctx child providers).filterMap (·.publicKey) := by
  unfold extractedKeys
  induction info.children with
  | nil => rfl
  | cons child more ih =>
    have hhead : (extractChild { ctx with keyNames := info.keyNames } child providers).filterMap
          (·.publicKey) = (extractChild ctx child providers).filterMap (·.publicKey) :=
      extractChild_keys_congr fun p hp => (hnames p hp).sameKeys child ctx info.keyNames
    rw [List.flatMap_cons, ih]
    cases child with
    | keyName name =>
      rw [extractChild_keyName hnames]
      rfl
    | keyValue | encodedKey | x509Data | unknown => exact congrArg (· ++ _) hhead

/-- **Where names come and go, the same keys are extracted**, if no provider has a use for names. -/
theorem extractedKeys_congr (hnames : ∀ p ∈ providers, p.IgnoresNames)
    (hsame : info'.SameButNames info) :
    extractedKeys providers info' usage = extractedKeys providers info usage := by
  have heq (i : KeyInfo) := extractedKeys_eq_of_ignoresNames hnames i ⟨[], usage⟩
  exact (heq info').trans ((congrArg (List.flatMap _) hsame).trans (heq info).symm)

end Chain

end MetadataTrust
