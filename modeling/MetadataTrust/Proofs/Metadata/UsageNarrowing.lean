import Mathlib.Data.List.Flatten
import MetadataTrust.Proofs.KeyInfo.Precedence
import MetadataTrust.Proofs.Metadata.Published

/-!
# When a usage narrows

Asking for a usage leaves out key descriptors and entries of the local store that have another one.  It
can also add something.  Where a descriptor tells no usage, the entries with its keys may all be for
another usage, and then the names of its `KeyInfo` are looked up instead, as if its keys were not in the
store at all.  `usage_narrows_iff` says that a lookup narrows a descriptor just if that does not happen
to it, and `UsageSample` shows it happen.
-/

namespace MetadataTrust

/-- A credential without the entity and the usage, which a lookup stamps. -/
def Credential.unstamped (k : Credential) : Credential :=
  { k with entityId := none, usage := .unspecified }

lemma KeyUsage.compatible_unspecified (declared : KeyUsage) :
    declared.compatible .unspecified = true := by
  cases declared <;> rfl

/-! ### Entries of the store -/

namespace CredentialStore

/-- A usage leads from the keys to the names: the store knows the keys, but with other usages only, and
has entries of the usage with the names. -/
structure Diverts (store : CredentialStore) (usage : KeyUsage) (keys : List PublicKey)
    (names : List String) : Prop where
  known : keys.flatMap (store.holding .unspecified) ≠ []
  unfit : keys.flatMap (store.holding usage) = []
  named : names.flatMap (store.bearing usage) ≠ []

variable {store : CredentialStore} {usage : KeyUsage} {keys : List PublicKey} {names : List String}
  {key : PublicKey} {name : String} {k k' : Credential}

instance : Decidable (store.Diverts usage keys names) :=
  decidable_of_iff
    (keys.flatMap (store.holding .unspecified) ≠ [] ∧ keys.flatMap (store.holding usage) = [] ∧
      names.flatMap (store.bearing usage) ≠ [])
    ⟨fun ⟨hknown, hunfit, hnamed⟩ => ⟨hknown, hunfit, hnamed⟩,
      fun h => ⟨h.known, h.unfit, h.named⟩⟩

/-- Of entries that are chosen by something else too, fewer go with a usage than with any. -/
lemma filter_usage_sublist (p : Credential → Bool) (ks : List Credential) (usage : KeyUsage) :
    (ks.filter fun k => p k && k.usage.compatible usage).Sublist
      (ks.filter fun k => p k && k.usage.compatible .unspecified) := by
  apply List.monotone_filter_right
  intro k hk
  rw [Bool.and_eq_true] at hk ⊢
  exact ⟨hk.1, k.usage.compatible_unspecified⟩

lemma mem_holding_iff :
    k ∈ store.holding usage key ↔
      k ∈ store.credentials ∧ k.publicKey = some key ∧ k.usage.compatible usage = true := by
  rw [holding, List.mem_filter, Bool.and_eq_true, decide_eq_true_eq, publicKey_eq_iff]

lemma mem_bearing_iff :
    k ∈ store.bearing usage name ↔
      k ∈ store.credentials ∧ name ∈ k.keyNames ∧ k.usage.compatible usage = true := by
  rw [bearing, List.mem_filter, Bool.and_eq_true, decide_eq_true_eq]

lemma Diverts.pointedAt_eq (h : store.Diverts usage keys names) :
    store.pointedAt usage keys names = names.flatMap (store.bearing usage) := if_pos h.unfit

lemma Diverts.pointedAt_unspecified_eq (h : store.Diverts usage keys names) :
    store.pointedAt .unspecified keys names = keys.flatMap (store.holding .unspecified) :=
  if_neg h.known

/-- What the usage leads to instead is not among what the keys point at. -/
lemma Diverts.ne (h : store.Diverts usage keys names) (hk : k ∈ store.pointedAt usage keys names)
    (hk' : k' ∈ store.pointedAt .unspecified keys names) : k.unstamped ≠ k'.unstamped := by
  intro heq
  rw [h.pointedAt_eq] at hk
  rw [h.pointedAt_unspecified_eq] at hk'
  obtain ⟨name, -, hbearing⟩ := List.mem_flatMap.1 hk
  obtain ⟨hmem, -, husage⟩ := mem_bearing_iff.1 hbearing
  obtain ⟨key, hkey, hholding⟩ := List.mem_flatMap.1 hk'
  obtain ⟨-, hholds, -⟩ := mem_holding_iff.1 hholding
  have hsameKey : k.unstamped.publicKey = k'.unstamped.publicKey := congrArg _ heq
  -- then the entry that bears the name also holds the key, and the keys were not given up
  have hfit : k ∈ keys.flatMap (store.holding usage) :=
    List.mem_flatMap.2 ⟨key, hkey, mem_holding_iff.2 ⟨hmem, hsameKey.trans hholds, husage⟩⟩
  rw [h.unfit] at hfit
  cases hfit

lemma pointedAt_sublist (h : ¬ store.Diverts usage keys names) :
    (store.pointedAt usage keys names).Sublist (store.pointedAt .unspecified keys names) := by
  have hkeys : (keys.flatMap (store.holding usage)).Sublist
      (keys.flatMap (store.holding .unspecified)) :=
    List.Sublist.flatMap_right keys fun key _ => filter_usage_sublist _ store.credentials usage
  have hnames : (names.flatMap (store.bearing usage)).Sublist
      (names.flatMap (store.bearing .unspecified)) :=
    List.Sublist.flatMap_right names fun name _ => filter_usage_sublist _ store.credentials usage
  unfold pointedAt
  -- with the usage the names may be looked up while without it the keys are
  by_cases hunfit : keys.flatMap (store.holding usage) = []
  · rw [if_pos hunfit]
    by_cases hknown : keys.flatMap (store.holding .unspecified) = []
    · rw [if_pos hknown]
      exact hnames
    · have hnamed : names.flatMap (store.bearing usage) = [] := by
        by_contra hnamed
        exact h ⟨hknown, hunfit, hnamed⟩
      rw [hnamed]
      exact List.nil_sublist _
  · have hknown : keys.flatMap (store.holding .unspecified) ≠ [] := by
      intro hknown
      rw [hknown] at hkeys
      exact hunfit (List.sublist_nil.1 hkeys)
    rw [if_neg hunfit, if_neg hknown]
    exact hkeys

/-- **A usage narrows what is pointed at just if it does not lead from the keys to the names.** -/
theorem pointedAt_narrows_iff (store : CredentialStore) (usage : KeyUsage) (keys : List PublicKey)
    (names : List String) :
    ((store.pointedAt usage keys names).map (·.unstamped)).Sublist
        ((store.pointedAt .unspecified keys names).map (·.unstamped)) ↔
      ¬ store.Diverts usage keys names := by
  constructor
  · intro hsub h
    obtain ⟨k, hk⟩ := List.exists_mem_of_ne_nil _ h.named
    rw [← h.pointedAt_eq] at hk
    obtain ⟨k', hk', heq⟩ := List.mem_map.1 (hsub.subset (List.mem_map_of_mem hk))
    exact h.ne hk hk' heq.symm
  · exact fun h => (pointedAt_sublist h).map _

end CredentialStore

/-! ### One key descriptor -/

namespace KeyDescriptor

/-- The entries of a store that local resolution gives for a key descriptor of an entity. -/
def vouched (providers : List KeyInfoProvider) (store : CredentialStore) (entityId : String)
    (wanted : KeyUsage) (d : KeyDescriptor) : List Credential :=
  let usage := d.lookupUsage wanted
  (store.pointedAt usage (extractedKeys providers d.keyInfo usage) d.keyInfo.keyNames).map
    (d.stamp entityId)

/-- Asking for the usage leads from the keys of the descriptor to the names of its `KeyInfo`. -/
def Diverted (providers : List KeyInfoProvider) (store : CredentialStore) (wanted : KeyUsage)
    (d : KeyDescriptor) : Prop :=
  d.usage = .unspecified ∧
    store.Diverts wanted (extractedKeys providers d.keyInfo wanted) d.keyInfo.keyNames

section Descriptor

variable {providers : List KeyInfoProvider} {store : CredentialStore} {entityId : String}
  {wanted : KeyUsage} {d : KeyDescriptor} {k : Credential}

instance : Decidable (d.Diverted providers store wanted) :=
  inferInstanceAs (Decidable (_ ∧ _))

lemma credentials_eq_vouched (d : KeyDescriptor) :
    d.credentials (localKeyInfoResolver providers store.resolver) entityId wanted =
      .ok (d.vouched providers store entityId wanted) := by
  have hfound := localKeyInfoResolver_pointedAt providers store
    { usage := some (d.lookupUsage wanted) } d.keyInfo
  unfold credentials
  rw [hfound]
  rfl

lemma lookupUsage_of_unspecified (h : d.usage = .unspecified) (wanted : KeyUsage) :
    d.lookupUsage wanted = wanted := if_pos h

/-- A descriptor without a usage is looked up for the one that is asked for. -/
lemma vouched_unstamped (h : d.usage = .unspecified) (entityId : String) (wanted : KeyUsage) :
    (d.vouched providers store entityId wanted).map (·.unstamped) =
      (store.pointedAt wanted (extractedKeys providers d.keyInfo wanted) d.keyInfo.keyNames).map
        (·.unstamped) := by
  unfold vouched
  rw [lookupUsage_of_unspecified h]
  exact List.map_map

/-- A descriptor with a usage of its own is looked up for that usage, whatever is asked for. -/
lemma vouched_of_usage (h : d.usage ≠ .unspecified) (wanted wanted' : KeyUsage) :
    d.vouched providers store entityId wanted = d.vouched providers store entityId wanted' := by
  have hlookup (w : KeyUsage) : d.lookupUsage w = d.usage := if_neg h
  unfold vouched
  rw [hlookup, hlookup]

/-- **Asking for a usage narrows what a descriptor gives just if it does not divert its lookup.** -/
theorem vouched_narrows_iff (husage : ∀ p ∈ providers, p.IgnoresUsage) :
    ((d.vouched providers store entityId wanted).map (·.unstamped)).Sublist
        ((d.vouched providers store entityId .unspecified).map (·.unstamped)) ↔
      ¬ d.Diverted providers store wanted := by
  by_cases h : d.usage = .unspecified
  · rw [vouched_unstamped h, vouched_unstamped h,
      extractedKeys_usage husage d.keyInfo .unspecified wanted,
      CredentialStore.pointedAt_narrows_iff, Diverted, and_iff_right h]
  · rw [vouched_of_usage h wanted .unspecified]
    exact iff_of_true (List.Sublist.refl _) fun hdiverted => h hdiverted.1

/-- Where the lookup is diverted, what it gives bears a name of the `KeyInfo`. -/
lemma Diverted.bears (h : d.Diverted providers store wanted)
    (hk : k ∈ d.vouched providers store entityId wanted) :
    ∃ name ∈ d.keyInfo.keyNames, name ∈ k.keyNames := by
  obtain ⟨hunspecified, hdiverts⟩ := h
  obtain ⟨entry, hentry, rfl⟩ := List.mem_map.1 hk
  rw [lookupUsage_of_unspecified hunspecified, hdiverts.pointedAt_eq] at hentry
  obtain ⟨name, hname, hbearing⟩ := List.mem_flatMap.1 hentry
  exact ⟨name, hname, (CredentialStore.mem_bearing_iff.1 hbearing).2.1⟩

end Descriptor

end KeyDescriptor

/-! ### The lookup -/

section Lookup

variable {c : Criteria} {requireValid : Bool} {now : Instant} {providers : List KeyInfoProvider}
  {store : CredentialStore} {x : String} {roles : List Role}

lemma roleResolver_usage (t : MetadataSource) (usage : Option KeyUsage) :
    roleResolver t.resolver requireValid now { c with usage := usage } =
      roleResolver t.resolver requireValid now c := by
  have hsame : t.resolver { c with usage := usage } = t.resolver c := t.resolver_congr rfl
  unfold roleResolver
  rw [hsame]

lemma publishedCredentialResolver_local (providers : List KeyInfoProvider) (store : CredentialStore)
    {t : MetadataSource} (hx : c.entityId = some x)
    (hroles : roleResolver t.resolver requireValid now c = .ok roles) (usage : Option KeyUsage) :
    publishedCredentialResolver (roleResolver t.resolver requireValid now)
        (localKeyInfoResolver providers store.resolver) { c with usage := usage } =
      .ok (((roles.flatMap (·.keyDescriptors)).filter
        (·.usage.compatible (usage.getD .unspecified))).flatMap
          (·.vouched providers store x (usage.getD .unspecified))) := by
  have hroles' := (roleResolver_usage t usage).trans hroles
  exact publishedCredentialResolver_of_roles hroles' hx fun d => d.credentials_eq_vouched

/-- Whether there are roles to look at has nothing to do with the usage. -/
lemma publishedCredentialResolver_usage_cases (t : MetadataSource) (requireValid : Bool) (now : Instant)
    (keyInfo : Resolver Credential) (c : Criteria) :
    (∃ x roles, c.entityId = some x ∧ roleResolver t.resolver requireValid now c = .ok roles) ∨
    ∃ err, ∀ usage, publishedCredentialResolver (roleResolver t.resolver requireValid now) keyInfo
      { c with usage := usage } = .error err := by
  obtain hx | ⟨x, hx⟩ := Option.eq_none_or_eq_some c.entityId
  · right
    refine ⟨.missing .entityId, fun usage => ?_⟩
    unfold publishedCredentialResolver
    rw [hx]
    rfl
  · obtain ⟨roles, hroles⟩ | ⟨err, hroles⟩ :=
      (roleResolver t.resolver requireValid now c).ok_or_error
    · exact .inl ⟨x, roles, hx, hroles⟩
    · right
      refine ⟨err, fun usage => ?_⟩
      unfold publishedCredentialResolver
      rw [hx, required, ← hx, roleResolver_usage, hroles]
      rfl

/-- A lookup of descriptors of which none is diverted is narrowed. -/
lemma vouched_flatMap_sublist (husage : ∀ p ∈ providers, p.IgnoresUsage) (wanted : KeyUsage)
    (descriptors : List KeyDescriptor) (x : String)
    (h : ∀ d ∈ descriptors, ¬ d.Diverted providers store wanted) :
    (((descriptors.filter (·.usage.compatible wanted)).flatMap
        (·.vouched providers store x wanted)).map (·.unstamped)).Sublist
      ((descriptors.flatMap (·.vouched providers store x .unspecified)).map (·.unstamped)) := by
  rw [List.map_flatMap, List.map_flatMap]
  have hleft : (descriptors.filter (·.usage.compatible wanted)).Sublist descriptors :=
    List.filter_sublist
  have hfewer := hleft.flatMap fun d => (d.vouched providers store x .unspecified).map (·.unstamped)
  refine List.Sublist.trans ?_ hfewer
  refine List.Sublist.flatMap_right _ fun d hd => ?_
  exact (KeyDescriptor.vouched_narrows_iff husage).2 (h d (List.mem_of_mem_filter hd))

/-- **A usage narrows a lookup, except where it diverts a descriptor from keys to names.**  The lookup
fails with a usage just as it does without one.  If no descriptor of its roles is diverted, then what it
gives for the usage is a sublist of what it gives without one, apart from the stamps.  A credential that
appears only for the usage comes from a diverted descriptor, and bears a name of its `KeyInfo`.  And a
single descriptor is narrowed just if it is not diverted. -/
theorem usage_narrows_iff (providers : List KeyInfoProvider)
    (husage : ∀ p ∈ providers, p.IgnoresUsage) (store : CredentialStore) (metadata : MetadataSource)
    (requireValid : Bool) (now : Instant) (c : Criteria) (u : KeyUsage) :
    let keyInfo := localKeyInfoResolver providers store.resolver
    let resolve := fun usage => publishedCredentialResolver
      (roleResolver metadata.resolver requireValid now) keyInfo { c with usage := usage }
    ((∃ err, ∀ usage, resolve usage = .error err) ∨
      ∃ roles all narrowed, roleResolver metadata.resolver requireValid now c = .ok roles ∧
        resolve none = .ok all ∧ resolve (some u) = .ok narrowed ∧
        let descriptors := roles.flatMap (·.keyDescriptors)
        ((∀ d ∈ descriptors, ¬ d.Diverted providers store u) →
          (narrowed.map (·.unstamped)).Sublist (all.map (·.unstamped))) ∧
        ∀ k ∈ narrowed, k.unstamped ∈ all.map (·.unstamped) ∨
          ∃ d ∈ descriptors, d.Diverted providers store u ∧
            ∃ name, .keyName name ∈ d.keyInfo.children ∧ name ∈ k.keyNames) ∧
    ∀ (d : KeyDescriptor) x all narrowed, d.credentials keyInfo x .unspecified = .ok all →
      d.credentials keyInfo x u = .ok narrowed →
      ((narrowed.map (·.unstamped)).Sublist (all.map (·.unstamped)) ↔
        ¬ d.Diverted providers store u) := by
  intro keyInfo resolve
  constructor
  · obtain ⟨x, roles, hx, hroles⟩ | hfails :=
      publishedCredentialResolver_usage_cases metadata requireValid now keyInfo c
    · right
      have hresolve := publishedCredentialResolver_local providers store hx hroles
      have hevery : (roles.flatMap (·.keyDescriptors)).filter (·.usage.compatible .unspecified) =
          roles.flatMap (·.keyDescriptors) :=
        List.filter_eq_self.2 fun d _ => d.usage.compatible_unspecified
      have hall := hresolve none
      rw [Option.getD_none, hevery] at hall
      refine ⟨roles, _, _, hroles, hall, hresolve (some u), ?_, ?_⟩
      · exact vouched_flatMap_sublist husage u _ x
      · intro k hk
        obtain ⟨d, hd, hk⟩ := List.mem_flatMap.1 hk
        have hd := List.mem_of_mem_filter hd
        by_cases hdiverted : d.Diverted providers store u
        · obtain ⟨name, hname, hbears⟩ := hdiverted.bears hk
          exact .inr ⟨d, hd, hdiverted, name, KeyInfo.mem_keyNames_iff.1 hname, hbears⟩
        · have hmem : k.unstamped ∈ (d.vouched providers store x .unspecified).map (·.unstamped) :=
            ((KeyDescriptor.vouched_narrows_iff husage).2 hdiverted).subset (List.mem_map_of_mem hk)
          rw [List.map_flatMap]
          exact .inl (List.mem_flatMap.2 ⟨d, hd, hmem⟩)
    · exact .inl hfails
  · intro d x all narrowed hall hnarrowed
    rw [d.credentials_eq_vouched] at hall hnarrowed
    obtain rfl := Except.ok.inj hall
    obtain rfl := Except.ok.inj hnarrowed
    exact KeyDescriptor.vouched_narrows_iff husage

end Lookup

/-! ### A key for encryption and a name for signing -/

namespace UsageSample

def key : PublicKey where
  encoded := Der.encodeEd25519Key
    (Octets.ofNat 32 0x6d3964e5fc039c3fddca9ca4685ec35214c8a2ca7af28b3ec6e4d77c365aa7ed)
  readable := by decide +kernel

/-- The entry with the key is for encryption. -/
def known : Credential where
  usage := .encryption
  publicKey := some key
  keyNames := .ofList ["by-key"]

/-- The entry with the name is for signing. -/
def named : Credential where
  usage := .signing
  keyNames := .ofList ["sp-key"]

def store : CredentialStore where
  credentials := [known, named]

/-- The descriptor tells no usage. -/
def descriptor : KeyDescriptor where
  keyInfo := { children := [.encodedKey key.encoded, .keyName "sp-key"] }

def role : Role where
  elementType := ⟨"urn:md", "SP", none⟩
  supportedProtocols := ["urn:p"]
  keyDescriptors := [descriptor]

def service : Entity where
  entityId := "https://sp.example.org"
  roles := [role]

def metadata : MetadataSource :=
  .store { id := "md", snapshot := some (.ofList [service]) }

def criteria : Criteria where
  entityId := some "https://sp.example.org"
  role := some ⟨"urn:md", "SP", none⟩

def morning : Instant := ⟨⟨2032, 3, 4⟩, 9, 15, 0, 0, by decide, by decide⟩

def resolve (usage : Option KeyUsage) : Except ResolutionError (List Credential) :=
  publishedCredentialResolver (roleResolver metadata.resolver true morning)
    (localKeyInfoResolver (ProviderKind.defaultChain.map (·.provider)) store.resolver)
    { criteria with usage := usage }

/-- Asking for encryption diverts nothing, and narrows the lookup. -/
theorem encryption_narrows :
    (∀ p ∈ ProviderKind.defaultChain.map (·.provider), p.IgnoresUsage) ∧
    ∃ all narrowed, resolve none = .ok all ∧ resolve (some .encryption) = .ok narrowed ∧
      (narrowed.map (·.unstamped)).Sublist (all.map (·.unstamped)) := by
  have husage : ∀ p ∈ ProviderKind.defaultChain.map (·.provider), p.IgnoresUsage := by
    intro p hp
    obtain ⟨kind, -, rfl⟩ := List.mem_map.1 hp
    exact kind.ignoresUsage
  refine ⟨husage, ?_⟩
  obtain ⟨err, hfails⟩ | ⟨roles, all, narrowed, hroles, hall, hnarrowed, hsub, -⟩ :=
    (usage_narrows_iff _ husage store metadata true morning criteria .encryption).1
  · have hok : (resolve none).isOk = true := by decide +kernel
    have herror : resolve none = .error err := hfails none
    rw [herror] at hok
    cases hok
  · have hfound : roleResolver metadata.resolver true morning criteria = .ok [role] := by
      decide +kernel
    obtain rfl := Except.ok.inj (hfound.symm.trans hroles)
    exact ⟨all, narrowed, hall, hnarrowed, hsub (by decide +kernel)⟩

/-- Asking for signing gives the entry with the name, which the lookup without a usage does not give. -/
theorem signing_adds :
    resolve none = .ok [{ known with entityId := some "https://sp.example.org" }] ∧
    resolve (some .signing) = .ok [{ named with entityId := some "https://sp.example.org" }] ∧
    ¬ [named.unstamped].Sublist [known.unstamped] := by
  refine ⟨?_, ?_, ?_⟩ <;> decide +kernel

end UsageSample

end MetadataTrust
