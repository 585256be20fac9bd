import MetadataTrust.CredentialStore
import MetadataTrust.KeyInfo.Resolver
import MetadataTrust.Proofs.Outcome

/-!
# What local resolution gives

`localKeyInfoResolver_store` says it without failures, for a store that never fails: the entries that
hold an extracted key, or else those that bear a name of the `KeyInfo`.  Either way they are entries of
the store with a compatible usage.
-/

namespace MetadataTrust

/-- The entries of a store that hold one of the keys, key by key. -/
def CredentialStore.byKey (store : CredentialStore) (usage : KeyUsage) (keys : List PublicKey) :
    List Credential :=
  keys.flatMap fun key => store.select { publicKey := some key, usage := some usage }

/-- The entries of a store that bear one of the names, name by name. -/
def CredentialStore.byName (store : CredentialStore) (usage : KeyUsage) (names : List String) :
    List Credential :=
  names.flatMap fun name => store.select { keyName := some name, usage := some usage }

section Store

variable {store : CredentialStore} {usage : KeyUsage} {k : Credential}

theorem Resolver.concat_store (cs : List Criteria) :
    store.resolver.concat cs = .ok (cs.flatMap store.select) := by
  unfold Resolver.concat
  rw [Except.mapM_eq_ok_map fun q _ => (rfl : store.resolver q = .ok (store.select q)),
    List.flatMap_def]
  rfl

theorem CredentialStore.mem_select_iff {c : Criteria} :
    k ∈ store.select c ↔ k ∈ store.credentials ∧ c.admits k = true :=
  List.mem_filter

theorem CredentialStore.mem_byKey_iff {keys : List PublicKey} :
    k ∈ store.byKey usage keys ↔
      k ∈ store.credentials ∧ (∃ key ∈ keys, k.publicKey = some key) ∧
        k.usage.compatible usage = true := by
  simp only [byKey, List.mem_flatMap, mem_select_iff, Criteria.admits]
  simp only [Option.all_none, Option.all_some, Bool.true_and, Bool.and_true, Bool.and_eq_true,
    decide_eq_true_eq]
  tauto

theorem CredentialStore.mem_byName_iff {names : List String} :
    k ∈ store.byName usage names ↔
      k ∈ store.credentials ∧ (∃ name ∈ names, name ∈ k.keyNames) ∧
        k.usage.compatible usage = true := by
  simp only [byName, List.mem_flatMap, mem_select_iff, Criteria.admits]
  simp only [Option.all_none, Option.all_some, Bool.true_and, Bool.and_eq_true, decide_eq_true_eq]
  tauto

end Store

section LocalResolver

variable {providers : List KeyInfoProvider} {store : CredentialStore} {c : Criteria} {info : KeyInfo}

/-- **The entries that hold an extracted key, or else those that bear a name of the `KeyInfo`.** -/
theorem localKeyInfoResolver_store (hinfo : c.keyInfo = some info) :
    localKeyInfoResolver providers store.resolver c =
      let keys := (extract providers info c.wantedUsage).filterMap (·.publicKey)
      .ok (if store.byKey c.wantedUsage keys = [] then store.byName c.wantedUsage info.keyNames
        else store.byKey c.wantedUsage keys) := by
  unfold localKeyInfoResolver
  simp only [hinfo, required, Resolver.concat_store, List.flatMap_map, bind, Except.bind]
  rw [CredentialStore.byKey, CredentialStore.byName, apply_ite Except.ok]
  simp only [List.isEmpty_iff]
  rfl

/-- What is resolved locally is in the store, with a usage that goes with the one asked for. -/
theorem mem_of_localKeyInfoResolver {ks : List Credential} {k : Credential}
    (h : localKeyInfoResolver providers store.resolver c = .ok ks) (hk : k ∈ ks) :
    k ∈ store.credentials ∧ k.usage.compatible c.wantedUsage = true := by
  cases hinfo : c.keyInfo with
  | none => simp [localKeyInfoResolver, hinfo, required, bind, Except.bind] at h
  | some info =>
    rw [localKeyInfoResolver_store hinfo] at h
    obtain rfl := Except.ok.inj h
    split at hk
    · obtain ⟨hmem, -, husage⟩ := CredentialStore.mem_byName_iff.1 hk
      exact ⟨hmem, husage⟩
    · obtain ⟨hmem, -, husage⟩ := CredentialStore.mem_byKey_iff.1 hk
      exact ⟨hmem, husage⟩

end LocalResolver

end MetadataTrust
