import MetadataTrust.Metadata.Document
import MetadataTrust.Proofs.Configuration.Chain
import MetadataTrust.Proofs.Metadata.Listing

/-!
# Documents that load

A document loads if each of its entities is well formed and no two have the same identifier; otherwise it
fails for the first entity that is not so (`validateFrom_eq_ok_iff`, `validateFrom_eq_error_iff`).  A
store without a filter takes in a document that loads as it stands.  A configured filter may drop
entities and take roles out, but what comes through is well formed still.
-/

namespace MetadataTrust

/-! ### One entity -/

/-- The identifier is not blank, and every role supports some protocol. -/
structure Entity.WellFormed (e : Entity) : Prop where
  entityId : ∃ c ∈ e.entityId.toList, Text.isBlank c = false
  protocols : ∀ r ∈ e.roles, r.supportedProtocols ≠ []

/-- What is wrong with an entity that comes after others.  A fault of the entity itself counts before a
repeated identifier. -/
inductive Entity.Violates (earlier : List Entity) (e : Entity) : StructureFault → Prop
  | blank (h : ∀ c ∈ e.entityId.toList, Text.isBlank c = true) : Violates earlier e .emptyEntityId
  | noProtocols {before after : List Role} {r : Role}
    (hid : ∃ c ∈ e.entityId.toList, Text.isBlank c = false) (hroles : e.roles = before ++ r :: after)
    (hbefore : ∀ q ∈ before, q.supportedProtocols ≠ []) (h : r.supportedProtocols = []) :
    Violates earlier e (.noProtocols r.elementType)
  | duplicate {a : Entity} (hformed : e.WellFormed) (ha : a ∈ earlier)
    (h : a.entityId = e.entityId) : Violates earlier e .duplicateEntityId

section Structure

variable {e e' : Entity} {earlier : List Entity} {fault : StructureFault}

lemma isBlankText_eq_false_iff {s : String} :
    Text.isBlankText s = false ↔ ∃ c ∈ s.toList, Text.isBlank c = false := by
  simp [Text.isBlankText]

lemma Entity.structureFault?_eq_none_iff : e.structureFault? = none ↔ e.WellFormed := by
  unfold structureFault?
  by_cases hblank : Text.isBlankText e.entityId = true
  · rw [if_pos hblank]
    refine iff_of_false nofun fun h => ?_
    rw [isBlankText_eq_false_iff.2 h.entityId] at hblank
    cases hblank
  · rw [if_neg hblank, Option.map_eq_none_iff, List.find?_eq_none]
    have hid := isBlankText_eq_false_iff.1 (Bool.not_eq_true _ ▸ hblank)
    simp only [List.isEmpty_iff]
    exact ⟨fun h => ⟨hid, h⟩, fun h => h.protocols⟩

theorem Entity.validate_eq_ok_iff : e.validate = .ok () ↔ e.WellFormed := by
  rw [← structureFault?_eq_none_iff]
  unfold validate
  cases e.structureFault? <;> simp

/-- An entity without some of its roles is still well formed. -/
lemma Entity.Trims.wellFormed (h : e'.Trims e) (he : e.WellFormed) : e'.WellFormed where
  entityId := h.entityId_eq ▸ he.entityId
  protocols r hr := he.protocols r (h.roles.subset hr)

/-- What is wrong with an entity, when the identifiers in `seen` are taken. -/
def Entity.faultAfter? (seen : List String) (e : Entity) : Option StructureFault :=
  e.structureFault?.or (if e.entityId ∈ seen then some .duplicateEntityId else none)

lemma Entity.faultAfter?_eq_none_iff {seen : List String} :
    e.faultAfter? seen = none ↔ e.WellFormed ∧ e.entityId ∉ seen := by
  simp [faultAfter?, structureFault?_eq_none_iff]

lemma Entity.structureFault?_eq_some_iff :
    e.structureFault? = some fault ↔ e.Violates earlier fault ∧ fault ≠ .duplicateEntityId := by
  unfold structureFault?
  by_cases hblank : Text.isBlankText e.entityId = true
  · have hall : ∀ c ∈ e.entityId.toList, Text.isBlank c = true := List.all_eq_true.1 hblank
    rw [if_pos hblank]
    constructor
    · rintro ⟨⟩
      exact ⟨.blank hall, nofun⟩
    · rintro ⟨h, hne⟩
      cases h with
      | blank h => rfl
      | noProtocols hid => cases (isBlankText_eq_false_iff.2 hid).symm.trans hblank
      | duplicate => exact absurd rfl hne
  · have hid := isBlankText_eq_false_iff.1 (Bool.not_eq_true _ ▸ hblank)
    rw [if_neg hblank, Option.map_eq_some_iff]
    simp only [List.find?_eq_some_iff_append, List.isEmpty_iff, Bool.not_eq_true',
      List.isEmpty_eq_false_iff]
    constructor
    · rintro ⟨r, ⟨hr, before, after, hroles, hbefore⟩, rfl⟩
      exact ⟨.noProtocols hid hroles hbefore hr, nofun⟩
    · rintro ⟨h, hne⟩
      cases h with
      | blank h => exact absurd (List.all_eq_true.2 h) hblank
      | noProtocols _ hroles hbefore h => exact ⟨_, ⟨h, _, _, hroles, hbefore⟩, rfl⟩
      | duplicate => exact absurd rfl hne

lemma Entity.faultAfter?_eq_some_iff {seen : List String}
    (hseen : ∀ x, x ∈ seen ↔ x ∈ earlier.map Entity.entityId) :
    e.faultAfter? seen = some fault ↔ e.Violates earlier fault := by
  rw [faultAfter?, Option.or_eq_some_iff, structureFault?_eq_some_iff,
    structureFault?_eq_none_iff, Option.ite_none_right_eq_some, hseen, List.mem_map]
  constructor
  · rintro (⟨h, -⟩ | ⟨hformed, ⟨a, ha, hid⟩, h⟩)
    · exact h
    · obtain rfl := Option.some.inj h
      exact .duplicate hformed ha hid
  · intro h
    cases h with
    | blank h => exact .inl ⟨.blank h, nofun⟩
    | noProtocols hid hroles hbefore h => exact .inl ⟨.noProtocols hid hroles hbefore h, nofun⟩
    | duplicate hformed ha hid => exact .inr ⟨hformed, ⟨_, ha, hid⟩, rfl⟩

end Structure

/-! ### Entities one after another -/

section Documents

variable {seen : List String} {e : Entity} {l : List Entity} {err : MetadataError}

lemma validateFrom_cons (seen : List String) (e : Entity) (l : List Entity) :
    validateFrom seen (e :: l) =
      match e.faultAfter? seen with
      | some fault => .error (.invalidMetadata e.entityId fault)
      | none => validateFrom (e.entityId :: seen) l := by
  unfold Entity.faultAfter?
  rw [validateFrom, Entity.validate]
  cases e.structureFault? with
  | some fault => rfl
  | none =>
    by_cases hseen : e.entityId ∈ seen
    · simp only [hseen, if_true]
      rfl
    · simp only [hseen, if_false]
      rfl

lemma forall_notMem_cons_iff :
    (∀ a ∈ l, a.entityId ∉ e.entityId :: seen) ↔
      (∀ a ∈ l, a.entityId ∉ seen) ∧ e.entityId ∉ l.map Entity.entityId := by
  simp only [List.mem_cons, not_or, forall₂_and, List.mem_map, not_exists, not_and]
  exact and_comm

/-- The entities pass if each is well formed and all identifiers are new. -/
theorem validateFrom_eq_ok_iff :
    validateFrom seen l = .ok () ↔
      (∀ e ∈ l, e.WellFormed) ∧ (∀ e ∈ l, e.entityId ∉ seen) ∧ (l.map Entity.entityId).Nodup := by
  induction l generalizing seen with
  | nil => simp [validateFrom]
  | cons e l ih =>
    rw [validateFrom_cons]
    cases hfault : e.faultAfter? seen with
    | some fault =>
      refine iff_of_false nofun fun h => ?_
      have hnone := Entity.faultAfter?_eq_none_iff.2
        ⟨h.1 e List.mem_cons_self, h.2.1 e List.mem_cons_self⟩
      cases hfault.symm.trans hnone
    | none =>
      obtain ⟨hformed, hnew⟩ := Entity.faultAfter?_eq_none_iff.1 hfault
      rw [ih, forall_notMem_cons_iff, List.forall_mem_cons, List.forall_mem_cons, List.map_cons,
        List.nodup_cons, and_iff_right hformed, and_iff_right hnew, and_assoc]

/-- **The check fails for the first entity that violates something.**  The induction is on the entities
that are left; those before them have the identifiers in `seen`. -/
theorem validateFrom_eq_error_iff {earlier : List Entity}
    (hseen : ∀ x, x ∈ seen ↔ x ∈ earlier.map Entity.entityId) :
    validateFrom seen l = .error err ↔ ∃ before e after fault, l = before ++ e :: after ∧
      validateFrom seen before = .ok () ∧ e.Violates (earlier ++ before) fault ∧
      err = .invalidMetadata e.entityId fault := by
  induction l generalizing seen earlier with
  | nil => simp [validateFrom]
  | cons e l ih =>
    have hseen' : ∀ x, x ∈ e.entityId :: seen ↔ x ∈ (earlier ++ [e]).map Entity.entityId := by
      intro x
      rw [List.mem_cons, hseen, List.map_append, List.mem_append, List.map_singleton,
        List.mem_singleton, or_comm]
    rw [validateFrom_cons]
    cases hfault : e.faultAfter? seen with
    | some fault =>
      have hviolates := (Entity.faultAfter?_eq_some_iff hseen).1 hfault
      constructor
      · rintro ⟨⟩
        exact ⟨[], e, l, fault, rfl, rfl, by rwa [List.append_nil], rfl⟩
      · rintro ⟨before, e', after, fault', hsplit, hbefore, hviolates', rfl⟩
        rcases before with _ | ⟨b, before⟩
        · obtain ⟨rfl, rfl⟩ := List.cons.inj hsplit
          rw [List.append_nil, ← Entity.faultAfter?_eq_some_iff hseen, hfault] at hviolates'
          obtain rfl := Option.some.inj hviolates'
          rfl
        · obtain ⟨rfl, rfl⟩ := List.cons.inj hsplit
          rw [validateFrom_cons, hfault] at hbefore
          cases hbefore
    | none =>
      simp only [ih hseen']
      constructor
      · rintro ⟨before, e', after, fault, rfl, hbefore, hviolates, rfl⟩
        refine ⟨e :: before, e', after, fault, rfl, ?_, by simpa using hviolates, rfl⟩
        rw [validateFrom_cons, hfault]
        exact hbefore
      · rintro ⟨before, e', after, fault, hsplit, hbefore, hviolates, rfl⟩
        rcases before with _ | ⟨b, before⟩
        · obtain ⟨rfl, rfl⟩ := List.cons.inj hsplit
          rw [List.append_nil, ← Entity.faultAfter?_eq_some_iff hseen, hfault] at hviolates
          cases hviolates
        · obtain ⟨rfl, rfl⟩ := List.cons.inj hsplit
          rw [validateFrom_cons, hfault] at hbefore
          exact ⟨before, e', after, fault, rfl, hbefore, by simpa using hviolates, rfl⟩

end Documents

/-! ### Loading -/

section Loading

variable {document : String} {entities : List Entity}

lemma readEntities_of_text (hread : entitiesOfText? document = some entities) :
    readEntities document = (validateFrom [] entities >>= fun _ => pure entities) := by
  unfold readEntities
  simp only [hread]
  rfl

lemma validateFrom_nil_eq_ok_iff {l : List Entity} :
    validateFrom [] l = .ok () ↔ (∀ e ∈ l, e.WellFormed) ∧ (l.map Entity.entityId).Nodup := by
  simp [validateFrom_eq_ok_iff]

/-- **A document loads exactly if its entities are well formed and have distinct identifiers.** -/
theorem readEntities_eq_ok_iff {loaded : List Entity}
    (hread : entitiesOfText? document = some entities) :
    readEntities document = .ok loaded ↔ loaded = entities ∧
      (∀ e ∈ entities, e.WellFormed) ∧ (entities.map Entity.entityId).Nodup := by
  rw [readEntities_of_text hread, Except.unit_bind_eq_ok_iff, Except.pure_eq_ok_iff,
    validateFrom_nil_eq_ok_iff, eq_comm, and_comm]

/-- **It fails for the first entity that violates something.** -/
theorem readEntities_eq_error_iff {err : MetadataError}
    (hread : entitiesOfText? document = some entities) :
    readEntities document = .error err ↔ ∃ before e after fault, entities = before ++ e :: after ∧
      (∀ a ∈ before, a.WellFormed) ∧ (before.map Entity.entityId).Nodup ∧
      e.Violates before fault ∧ err = .invalidMetadata e.entityId fault := by
  have hnone (x : String) : x ∈ [] ↔ x ∈ ([] : List Entity).map Entity.entityId := by simp
  rw [readEntities_of_text hread, Except.bind_eq_error_iff,
    or_iff_left fun ⟨_, _, h⟩ => Except.pure_ne_error h, validateFrom_eq_error_iff hnone]
  simp only [validateFrom_nil_eq_ok_iff, List.nil_append, and_assoc]

lemma wellFormed_of_readEntities {loaded : List Entity} (h : readEntities document = .ok loaded) :
    ∀ e ∈ loaded, e.WellFormed := by
  cases hread : entitiesOfText? document with
  | none =>
    unfold readEntities at h
    rw [hread] at h
    cases h
  | some entities =>
    obtain ⟨rfl, hformed, -⟩ := (readEntities_eq_ok_iff hread).1 h
    exact hformed

end Loading

/-! ### Refreshing without a filter -/

section Unfiltered

variable {l : List Entity}

/-- Of entities with distinct identifiers a store keeps all. -/
lemma keepFirst_eq_self {seen : List String} (hseen : ∀ e ∈ l, e.entityId ∉ seen)
    (hids : (l.map Entity.entityId).Nodup) : keepFirst seen l = l := by
  induction l generalizing seen with
  | nil => rfl
  | cons e l ih =>
    obtain ⟨hnew, hseen⟩ := List.forall_mem_cons.1 hseen
    rw [List.map_cons, List.nodup_cons] at hids
    rw [keepFirst, if_neg hnew, ih (forall_notMem_cons_iff.2 ⟨hseen, hids.1⟩) hids.2]

/-- **Without a filter a store takes in all entities, in order**, if their identifiers are distinct. -/
theorem MetadataStore.refresh_unfiltered (id : String) (old : Option Snapshot) (now : Instant)
    (hids : (l.map Entity.entityId).Nodup) :
    ∃ next : Snapshot, next.entities = l ∧
      refresh ⟨id, none, old⟩ now l = (.ok l.length, ⟨id, none, some next⟩) := by
  have hsift : l.mapM (sift ⟨id, none, old⟩ now) = .ok (l.map some) :=
    Except.mapM_eq_ok_map fun e _ => rfl
  have hkept : (Snapshot.ofList l).entities = l := keepFirst_eq_self (by simp) hids
  have hfiltered : filtered ⟨id, none, old⟩ now l = .ok (.ofList l) :=
    filtered_eq_ok_iff.2 ⟨_, hsift, by simp [List.filterMap_map]⟩
  refine ⟨.ofList l, hkept, ?_⟩
  rw [refresh_of_ok hfiltered, hkept]

/-- What a store holds is listed in order, and each entity is found by its identifier. -/
lemma MetadataStore.resolver_of_snapshot {s : MetadataStore} {contents : Snapshot}
    (h : s.snapshot = some contents) :
    s.resolver {} = .ok contents.entities ∧
      ∀ e ∈ contents.entities, s.resolver { entityId := some e.entityId } = .ok [e] := by
  have hrefreshed : s.isRefreshed = true := by rw [isRefreshed, h, Option.isSome_some]
  have hentities : s.entities = contents.entities := by rw [entities, h]; rfl
  rw [← hentities]
  refine ⟨?_, fun e he => ?_⟩
  · rw [resolver_of_refreshed hrefreshed, filter_wants_all]
  · rw [resolver_of_refreshed hrefreshed, filter_wants_entityId, hentities,
      contents.filter_entityId_of_mem (hentities ▸ he)]

end Unfiltered

/-! ### Refreshing through configured filters -/

namespace MetadataStore

variable {s : MetadataStore} {f : MetadataFilter} {now : Instant} {batch : List Entity}

/-- A filter that only trims keeps the entities of a batch well formed. -/
lemma wellFormed_of_filtered {next : Snapshot} (hf : f.OnlyTrims) (hfilter : s.filter = some f)
    (hbatch : ∀ e ∈ batch, e.WellFormed) (h : s.filtered now batch = .ok next) :
    ∀ e ∈ next.entities, e.WellFormed := by
  intro e he
  obtain ⟨x, hx, hsift⟩ := mem_of_filtered h he
  rw [sift, hfilter] at hsift
  exact (hf now x e hsift).wellFormed (hbatch x hx)

/-- All entities in the store are well formed. -/
def HoldsWellFormed (s : MetadataStore) : Prop := ∀ e ∈ s.entities, e.WellFormed

lemma holdsWellFormed_of_unrefreshed (h : s.snapshot = none) : s.HoldsWellFormed := by
  intro e he
  rw [entities, h] at he
  cases he

lemma refresh_holdsWellFormed (hf : f.OnlyTrims) (hfilter : s.filter = some f)
    (hbatch : ∀ e ∈ batch, e.WellFormed) (h : s.HoldsWellFormed) :
    (s.refresh now batch).2.HoldsWellFormed := by
  cases hfiltered : s.filtered now batch with
  | error err => rwa [refresh_of_error hfiltered]
  | ok next =>
    rw [refresh_of_ok hfiltered]
    exact wellFormed_of_filtered hf hfilter hbatch hfiltered

lemma refreshAll_holdsWellFormed {calls : List RefreshCall} (hf : f.OnlyTrims)
    (hfilter : s.filter = some f) (hcalls : ∀ c ∈ calls, ∀ e ∈ c.batch, e.WellFormed)
    (h : s.HoldsWellFormed) : (s.refreshAll calls).HoldsWellFormed := by
  induction calls generalizing s with
  | nil => exact h
  | cons c calls ih =>
    obtain ⟨hc, hcalls⟩ := List.forall_mem_cons.1 hcalls
    rw [refreshAll_cons]
    exact ih (refresh_filter.trans hfilter) hcalls (refresh_holdsWellFormed hf hfilter hc h)

end MetadataStore

section Chain

variable {c : Configuration} {parts : FilterParts} {chain : FilterChain}

lemma Configuration.chain_toFilter_onlyTrims (h : c.chain parts = .ok chain) :
    chain.toFilter.OnlyTrims :=
  fun _ _ _ he => FilterChain.run_trims (chain_onlyTrims h) he

/-- **What a refresh through configured filters takes from a document passes the check.** -/
theorem validate_of_refresh {document id : String} {loaded : List Entity} {old : Option Snapshot}
    {now : Instant} {n : Nat} {s : MetadataStore} (hchain : c.chain parts = .ok chain)
    (hload : readEntities document = .ok loaded)
    (h : MetadataStore.refresh ⟨id, some chain.toFilter, old⟩ now loaded = (.ok n, s)) :
    ∀ e ∈ s.entities, e.validate = .ok () := by
  obtain ⟨next, hfiltered, -⟩ := MetadataStore.refresh_eq_ok_iff.1 (congrArg Prod.fst h)
  rw [MetadataStore.refresh_of_ok hfiltered] at h
  obtain rfl := congrArg Prod.snd h
  have hformed := MetadataStore.wellFormed_of_filtered
    (Configuration.chain_toFilter_onlyTrims hchain) rfl (wellFormed_of_readEntities hload) hfiltered
  exact fun e he => Entity.validate_eq_ok_iff.2 (hformed e he)

/-- **So does what a run of refreshes leaves in the store.** -/
theorem validate_of_refreshAll {id : String} {calls : List RefreshCall}
    (hchain : c.chain parts = .ok chain)
    (hcalls : ∀ call ∈ calls, ∃ document, readEntities document = .ok call.batch) :
    ∀ e ∈ (MetadataStore.refreshAll ⟨id, some chain.toFilter, none⟩ calls).entities,
      e.validate = .ok () := by
  have hbatches : ∀ call ∈ calls, ∀ e ∈ call.batch, e.WellFormed := by
    intro call hcall
    obtain ⟨document, hload⟩ := hcalls call hcall
    exact wellFormed_of_readEntities hload
  have hformed : (MetadataStore.refreshAll ⟨id, some chain.toFilter, none⟩ calls).HoldsWellFormed :=
    MetadataStore.refreshAll_holdsWellFormed (Configuration.chain_toFilter_onlyTrims hchain) rfl
      hbatches (MetadataStore.holdsWellFormed_of_unrefreshed rfl)
  exact fun e he => Entity.validate_eq_ok_iff.2 (hformed e he)

end Chain

/-! ### From a document into a store -/

/-- **A document loads exactly if it is well formed, and nothing of it is lost then.**

* It loads as its entities, provided that they are well formed and their identifiers are distinct.
* Otherwise it fails for the first entity that violates one of these, with what is wrong with it.
* A store without a filter takes in a document that loads in full: it lists the entities in order and
  finds each by its identifier.
* Through the chain of any configuration, what such documents leave in a store passes the check of its
  structure, after one refresh over any contents and after any run of refreshes. -/
theorem documents_load_exactly {document : String} {entities : List Entity}
    (hread : entitiesOfText? document = some entities) :
    (∀ loaded, readEntities document = .ok loaded ↔ loaded = entities ∧
      (∀ e ∈ entities, e.WellFormed) ∧ (entities.map Entity.entityId).Nodup) ∧
    (∀ err, readEntities document = .error err ↔
      ∃ before e after fault, entities = before ++ e :: after ∧
        (∀ a ∈ before, a.WellFormed) ∧ (before.map Entity.entityId).Nodup ∧
        e.Violates before fault ∧ err = .invalidMetadata e.entityId fault) ∧
    (readEntities document = .ok entities →
      ∀ (id : String) (old : Option Snapshot) (now : Instant), ∃ s : MetadataStore,
        MetadataStore.refresh ⟨id, none, old⟩ now entities = (.ok entities.length, s) ∧
        s.resolver {} = .ok entities ∧
        ∀ e ∈ entities, s.resolver { entityId := some e.entityId } = .ok [e]) ∧
    ∀ (c : Configuration) (parts : FilterParts) (chain : FilterChain), c.chain parts = .ok chain →
      (readEntities document = .ok entities →
        ∀ (id : String) (old : Option Snapshot) (now : Instant) (n : Nat) (s : MetadataStore),
          MetadataStore.refresh ⟨id, some chain.toFilter, old⟩ now entities = (.ok n, s) →
          ∀ e ∈ s.entities, e.validate = .ok ()) ∧
      ∀ (id : String) (calls : List RefreshCall),
        (∀ call ∈ calls, ∃ d, readEntities d = .ok call.batch) →
        ∀ e ∈ (MetadataStore.refreshAll ⟨id, some chain.toFilter, none⟩ calls).entities,
          e.validate = .ok () := by
  refine ⟨fun loaded => readEntities_eq_ok_iff hread, fun err => readEntities_eq_error_iff hread, ?_,
    ?_⟩
  · intro hload id old now
    obtain ⟨-, -, hids⟩ := (readEntities_eq_ok_iff hread).1 hload
    obtain ⟨next, hnext, hrefresh⟩ := MetadataStore.refresh_unfiltered id old now hids
    obtain ⟨hlisted, hfound⟩ :=
      MetadataStore.resolver_of_snapshot (s := ⟨id, none, some next⟩) rfl
    exact ⟨_, hrefresh, hnext ▸ hlisted, hnext ▸ hfound⟩
  · intro c parts chain hchain
    exact ⟨fun hload id old now n s => validate_of_refresh hchain hload,
      fun id calls => validate_of_refreshAll hchain⟩

/-! ### Two entities of distinct identifiers, and of the same -/

namespace LoadingSample

/-- A document of an entity with a role, and a second one of the given identifier. -/
def document (second : String) : String :=
  "[\x7bentity_id: sp, roles: [\x7belement_type: \x7bnamespace_uri: md, local_part: SP\x7d, " ++
    "supported_protocols: [saml]\x7d]\x7d, \x7bentity_id: " ++ second ++ "\x7d]"

/-- The entity with a role. -/
def provider : Entity where
  entityId := "sp"
  roles := [{ elementType := ⟨"md", "SP", none⟩, supportedProtocols := ["saml"] }]

/-- The entities of the document. -/
def entities (second : String) : List Entity := [provider, { entityId := second }]

lemma entitiesOfText_distinct : entitiesOfText? (document "idp") = some (entities "idp") := by
  decide +kernel

lemma entitiesOfText_repeated : entitiesOfText? (document "sp") = some (entities "sp") := by
  decide +kernel

lemma provider_wellFormed : provider.WellFormed where
  entityId := isBlankText_eq_false_iff.1 (by decide)
  protocols := List.forall_mem_singleton.2 (List.cons_ne_nil _ _)

lemma second_wellFormed {id : String} (h : Text.isBlankText id = false) :
    ({ entityId := id } : Entity).WellFormed where
  entityId := isBlankText_eq_false_iff.1 h
  protocols := List.forall_mem_nil _

/-- With distinct identifiers the document loads, and a store takes it in. -/
theorem distinct_loads :
    entitiesOfText? (document "idp") = some (entities "idp") ∧
    readEntities (document "idp") = .ok (entities "idp") ∧
    ∀ now, ∃ s : MetadataStore,
      MetadataStore.refresh ⟨"store", none, none⟩ now (entities "idp") = (.ok 2, s) ∧
        s.resolver {} = .ok (entities "idp") := by
  obtain ⟨hloads, -, hstored, -⟩ := documents_load_exactly entitiesOfText_distinct
  have hload : readEntities (document "idp") = .ok (entities "idp") := by
    refine (hloads _).2 ⟨rfl, ?_, by decide⟩
    rintro e (_ | ⟨_, _ | ⟨_, ⟨⟩⟩⟩)
    · exact provider_wellFormed
    · exact second_wellFormed (by decide)
  refine ⟨entitiesOfText_distinct, hload, fun now => ?_⟩
  obtain ⟨s, hrefresh, hlisted, -⟩ := hstored hload "store" none now
  exact ⟨s, hrefresh, hlisted⟩

/-- With the identifier repeated it fails for the second entity. -/
theorem repeated_fails :
    readEntities (document "sp") = .error (.invalidMetadata "sp" .duplicateEntityId) := by
  refine (readEntities_eq_error_iff entitiesOfText_repeated).2
    ⟨[provider], { entityId := "sp" }, [], _, rfl, ?_, by decide, ?_, rfl⟩
  · exact List.forall_mem_singleton.2 provider_wellFormed
  · exact .duplicate (second_wellFormed (by decide)) (List.mem_singleton_self _) rfl

end LoadingSample

end MetadataTrust
