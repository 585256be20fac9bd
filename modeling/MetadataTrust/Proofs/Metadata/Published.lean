import MetadataTrust.Metadata.RoleResolver
import MetadataTrust.Proofs.KeyInfo.Extraction
import MetadataTrust.Proofs.Metadata.Listing

/-!
# Credentials that metadata publishes

The credentials of an entity are found through its roles, their key descriptors and the children of
their `KeyInfo`s.  `publishedCredentials_exact` says that what comes out is just what stands there, in
document order: what is asked for narrows the roles and the descriptors, and nothing is lost or told
twice on the way.  A descriptor without a usage lends its keys to the usage that is asked for.
-/

namespace MetadataTrust

/-! ### One key descriptor -/

namespace KeyDescriptor

/-- What is known of a credential `k` that a key descriptor of the entity `entityId` publishes for a
usage. -/
structure Publishes (d : KeyDescriptor) (entityId : String) (wanted : KeyUsage) (k : Credential) :
    Prop where
  entityId_eq : k.entityId = some entityId
  holdsKey : k.publicKey.isSome = true
  privateKey_eq : k.privateKey = none
  serves : k.usage.compatible wanted = true
  servesDescriptor : k.usage.compatible d.usage = true
  named : ∀ name ∈ d.keyInfo.keyNames, name ∈ k.keyNames

section Descriptor

variable {d : KeyDescriptor} {wanted : KeyUsage} {k : Credential} {kinds : List ProviderKind}
  {entityId : String}

/-- The credentials of a key descriptor, child by child, for an entity: those that the providers extract
for the descriptor's usage, or the one that is asked for if it has none. -/
def published (providers : List KeyInfoProvider) (entityId : String) (wanted : KeyUsage)
    (d : KeyDescriptor) : List Credential :=
  d.keyInfo.children.flatMap fun child =>
    (extractChild (.ofKeyInfo d.keyInfo (if d.usage = .unspecified then wanted else d.usage)) child
      providers).map fun k => { k with entityId := some entityId }

/-- A credential that was extracted for the usage of the lookup already has the usage that the descriptor
would give it. -/
lemma stamp_eq (entityId : String) (h : k.usage = d.lookupUsage wanted) :
    d.stamp entityId k = { k with entityId := some entityId } := by
  have husage : (if k.usage = .unspecified then d.usage else k.usage) = k.usage := by
    rw [h]
    unfold lookupUsage
    by_cases hd : d.usage = .unspecified
    · simp [hd, eq_comm]
    · simp [hd]
  simp only [stamp, husage]

/-- What the lookup was made for goes with what is asked for, and with the descriptor. -/
lemma lookupUsage_compatible (h : d.usage.compatible wanted = true) :
    (d.lookupUsage wanted).compatible wanted = true ∧
      (d.lookupUsage wanted).compatible d.usage = true := by
  unfold lookupUsage
  cases hd : d.usage <;> cases wanted <;> simp_all [KeyUsage.compatible]

/-- **A key descriptor gives what built-in providers extract from its children**, each credential with
the entity. -/
theorem credentials_eq (kinds : List ProviderKind) (entityId : String) :
    d.credentials (keyInfoResolver (kinds.map (·.provider))) entityId wanted =
      .ok (d.published (kinds.map (·.provider)) entityId wanted) := by
  change Except.ok ((extract _ d.keyInfo (d.lookupUsage wanted)).map (d.stamp entityId)) = _
  unfold extract published
  rw [List.map_flatMap]
  refine congrArg Except.ok (List.flatMap_congr fun child _ => List.map_congr_left fun k hk => ?_)
  exact stamp_eq entityId (stamps_of_mem_extractChild hk).usage_eq

lemma publishes_of_mem (h : d.usage.compatible wanted = true)
    (hk : k ∈ d.published (kinds.map (·.provider)) entityId wanted) :
    d.Publishes entityId wanted k := by
  obtain ⟨child, -, hk⟩ := List.mem_flatMap.1 hk
  obtain ⟨k₀, hk₀, rfl⟩ := List.mem_map.1 hk
  have hstamps := stamps_of_mem_extractChild hk₀
  have husage : k₀.usage = d.lookupUsage wanted := hstamps.usage_eq
  obtain ⟨hwanted, hdeclared⟩ := lookupUsage_compatible h
  exact ⟨rfl, hstamps.holdsKey, hstamps.privateKey_eq, husage ▸ hwanted, husage ▸ hdeclared,
    hstamps.named⟩

end Descriptor

end KeyDescriptor

/-! ### The credentials of an entity -/

section Published

variable {kinds : List ProviderKind} {roles : Resolver Role} {c : Criteria} {found : List Role}

/-- What a lookup gives is put together from what its descriptors give, in order. -/
lemma publishedCredentialResolver_of_roles {keyInfo : Resolver Credential}
    {published : KeyDescriptor → List Credential} {x : String} (hroles : roles c = .ok found)
    (hx : c.entityId = some x)
    (hlookup : ∀ d : KeyDescriptor, d.credentials keyInfo x c.wantedUsage = .ok (published d)) :
    publishedCredentialResolver roles keyInfo c =
      .ok (((found.flatMap (·.keyDescriptors)).filter (·.usage.compatible c.wantedUsage)).flatMap
        published) := by
  unfold publishedCredentialResolver
  rw [hx, required, hroles]
  simp only [bind, Except.bind]
  rw [Except.mapM_eq_ok_map fun d _ => hlookup d, List.flatMap_def]
  rfl

/-- **Exactly the credentials that the entity publishes.**  They are those that built-in providers extract
from the children of the key descriptors whose usage goes with the one that is asked for, in the roles of
the entity `x` that have the element type `t`, support the protocol, and are valid, as the entity is, if
that is required; all in document order.  Each credential tells the entity, holds no private key, may
serve the usage that is asked for and that of its descriptor, and bears the names of its `KeyInfo`. -/
theorem publishedCredentials_exact (kinds : List ProviderKind) (s : MetadataStore) (contents : Snapshot)
    (requireValid : Bool) (now : Instant) (c : Criteria) (x : String) (t : QName) :
    let wanted := c.usage.getD .unspecified
    let providers := kinds.map (·.provider)
    let found :=
      (contents.entities.filter fun e => e.entityId = x && (!requireValid || e.isValidAt now)).flatMap
        fun e => (e.roles.filter fun r => r.elementType.expanded = t.expanded &&
          c.protocol.all (· ∈ r.supportedProtocols) && (!requireValid || r.isValidAt now)).flatMap
        fun r => (r.keyDescriptors.filter (·.usage.compatible wanted)).flatMap
        fun d => d.keyInfo.children.flatMap
        fun child => (extractChild ⟨d.keyInfo.keyNames, if d.usage = .unspecified then wanted else d.usage⟩
          child providers).map fun k => { k with entityId := some x }
    publishedCredentialResolver
        (roleResolver { s with snapshot := some contents }.resolver requireValid now)
        (keyInfoResolver providers) { c with entityId := some x, role := some t } = .ok found ∧
    ∀ k ∈ found, ∃ e ∈ contents.entities, e.entityId = x ∧
      ∃ r ∈ e.roles, r.elementType.same t = true ∧ (∀ p, c.protocol = some p → r.supports p = true) ∧
        (requireValid = true → e.isValidAt now = true ∧ r.isValidAt now = true) ∧
      ∃ d ∈ r.keyDescriptors, d.usage.compatible wanted = true ∧ d.Publishes x wanted k := by
  intro wanted providers found
  constructor
  · have hstore : { s with snapshot := some contents }.isRefreshed = true := rfl
    have hroles : roleResolver { s with snapshot := some contents }.resolver requireValid now
        { c with entityId := some x, role := some t } =
        .ok (RoleQuery.select ⟨t, c.protocol, requireValid, now⟩
          (contents.entities.filter (·.entityId = x))) := by
      unfold roleResolver
      rw [MetadataStore.resolver_of_refreshed hstore]
      rfl
    rw [publishedCredentialResolver_of_roles hroles rfl fun d => d.credentials_eq kinds x,
      List.filter_flatMap, List.flatMap_assoc, RoleQuery.select, List.flatMap_assoc, List.filter_filter]
    -- the store looks for the identifier before expired entities are left out
    have hentity (e : Entity) :
        (RoleQuery.admitsEntity ⟨t, c.protocol, requireValid, now⟩ e && decide (e.entityId = x)) =
          (decide (e.entityId = x) && (!requireValid || e.isValidAt now)) := Bool.and_comm _ _
    simp only [hentity]
    rfl
  · intro k hk
    obtain ⟨e, he, hk⟩ := List.mem_flatMap.1 hk
    obtain ⟨r, hr, hk⟩ := List.mem_flatMap.1 hk
    obtain ⟨d, hd, hk⟩ := List.mem_flatMap.1 hk
    simp only [List.mem_filter, Bool.and_eq_true, Bool.or_eq_true, Bool.not_eq_true',
      decide_eq_true_eq] at he hr hd
    obtain ⟨he, hx, hvalid⟩ := he
    obtain ⟨hr, ⟨htype, hprotocol⟩, hvalid'⟩ := hr
    refine ⟨e, he, hx, r, hr, decide_eq_true htype, ?_, ?_, d, hd.1, hd.2, ?_⟩
    · intro p hp
      rw [hp] at hprotocol
      exact hprotocol
    · intro hrequired
      rw [hrequired] at hvalid hvalid'
      simpa using And.intro hvalid hvalid'
    · exact KeyDescriptor.publishes_of_mem hd.2 hk

end Published

end MetadataTrust
