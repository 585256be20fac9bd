import MetadataTrust.Proofs.KeyInfo.Extraction
import MetadataTrust.Proofs.KeyInfo.LocalTrust

/-!
# Keys before names

The author of a `KeyInfo` can point at entries of a store by keys and by names.  Names count only if no
key points at an entry, and only those that stand in the `KeyInfo` itself: what certificates say about
their subjects selects nothing.  `localKeyInfoResolver_exact` says exactly what comes out, in which
order, and what makes no difference.
-/

namespace MetadataTrust

/-! ### Entries that are pointed at -/

namespace CredentialStore

/-- The entries that hold the key, octet by octet, with a usage that goes with `usage`. -/
def holding (store : CredentialStore) (usage : KeyUsage) (key : PublicKey) : List Credential :=
  store.credentials.filter fun k =>
    k.publicKey.map (·.encoded) = some key.encoded && k.usage.compatible usage

/-- The entries that bear the name, with a usage that goes with `usage`. -/
def bearing (store : CredentialStore) (usage : KeyUsage) (name : String) : List Credential :=
  store.credentials.filter fun k => name ∈ k.keyNames && k.usage.compatible usage

/-- The entries that the keys point at, key by key, or, if there are none, those that the names point at,
name by name. -/
def pointedAt (store : CredentialStore) (usage : KeyUsage) (keys : List PublicKey)
    (names : List String) : List Credential :=
  if keys.flatMap (store.holding usage) = [] then names.flatMap (store.bearing usage)
  else keys.flatMap (store.holding usage)

variable {store : CredentialStore} {usage : KeyUsage} {keys : List PublicKey} {names : List String}
  {k : Credential}

lemma publicKey_eq_iff {key : PublicKey} :
    k.publicKey = some key ↔ k.publicKey.map (·.encoded) = some key.encoded := by
  rcases k.publicKey with _ | ⟨encoded, readable⟩
  · simp
  · cases key
    simp

lemma byKey_eq (store : CredentialStore) (usage : KeyUsage) (keys : List PublicKey) :
    store.byKey usage keys = keys.flatMap (store.holding usage) := by
  refine List.flatMap_congr fun key _ => List.filter_congr fun k _ => ?_
  have hkey : decide (k.publicKey.map (·.encoded) = some key.encoded) =
      decide (k.publicKey = some key) := decide_eq_decide.2 publicKey_eq_iff.symm
  rw [hkey]
  simp [Criteria.admits]

lemma byName_eq (store : CredentialStore) (usage : KeyUsage) (names : List String) :
    store.byName usage names = names.flatMap (store.bearing usage) := by
  refine List.flatMap_congr fun name _ => List.filter_congr fun k _ => ?_
  simp [Criteria.admits]

lemma pointedAt_of_hit (h : keys.flatMap (store.holding usage) ≠ []) :
    store.pointedAt usage keys names = keys.flatMap (store.holding usage) := if_neg h

/-- What is pointed at is in the store, and a key or a name leads to it. -/
lemma of_mem_pointedAt (h : k ∈ store.pointedAt usage keys names) :
    k ∈ store.credentials ∧ k.usage.compatible usage = true ∧
      ((∃ key ∈ keys, k.publicKey = some key) ∨ ∃ name ∈ names, name ∈ k.keyNames) := by
  unfold pointedAt at h
  rw [← byKey_eq, ← byName_eq] at h
  split at h
  · obtain ⟨hmem, hname, husage⟩ := mem_byName_iff.1 h
    exact ⟨hmem, husage, .inr hname⟩
  · obtain ⟨hmem, hkey, husage⟩ := mem_byKey_iff.1 h
    exact ⟨hmem, husage, .inl hkey⟩

end CredentialStore

/-! ### What local resolution gives -/

section LocalResolver

variable {providers : List KeyInfoProvider} {c : Criteria} {info : KeyInfo} {err : ResolutionError}

lemma KeyInfo.mem_keyNames_iff {name : String} :
    name ∈ info.keyNames ↔ .keyName name ∈ info.children := by
  unfold keyNames
  rw [List.mem_filterMap]
  constructor
  · rintro ⟨child, hchild, hname⟩
    cases child with
    | keyName name' => exact Option.some.inj hname ▸ hchild
    | keyValue | encodedKey | x509Data | unknown => cases hname
  · exact fun h => ⟨_, h, rfl⟩

/-- **The entries that the extracted keys point at, or else those that the names do.** -/
lemma localKeyInfoResolver_pointedAt (providers : List KeyInfoProvider) (store : CredentialStore)
    (c : Criteria) (info : KeyInfo) :
    localKeyInfoResolver providers store.resolver { c with keyInfo := some info } =
      .ok (store.pointedAt c.wantedUsage (extractedKeys providers info c.wantedUsage)
        info.keyNames) := by
  rw [localKeyInfoResolver_store rfl, CredentialStore.pointedAt, extractedKeys_eq,
    ← CredentialStore.byKey_eq, ← CredentialStore.byName_eq]
  rfl

/-- Where the store fails, so does the resolution, unless there is nothing to ask the store for. -/
lemma localKeyInfoResolver_failing (providers : List KeyInfoProvider) (c : Criteria) (info : KeyInfo) :
    localKeyInfoResolver providers (fun _ => .error err) { c with keyInfo := some info } =
      if extractedKeys providers info c.wantedUsage = [] ∧ info.keyNames = [] then .ok []
      else .error err := by
  rw [extractedKeys_eq]
  change (Resolver.concat _ (((extract providers info c.wantedUsage).filterMap (·.publicKey)).map _) >>=
    fun byKey => if byKey.isEmpty then Resolver.concat _ (info.keyNames.map _) else pure byKey) = _
  cases (extract providers info c.wantedUsage).filterMap (·.publicKey) with
  | nil => cases info.keyNames <;> rfl
  | cons key more => rfl

end LocalResolver

end MetadataTrust
