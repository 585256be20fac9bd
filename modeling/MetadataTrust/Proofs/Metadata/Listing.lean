import MetadataTrust.Proofs.Metadata.Index

/-!
# Lookups and listings of chains

A chain of chains asks its stores from left to right (`resolver_eq_scan`), and each query stops at the
first store that has something for it.  A lookup may therefore stop at another store than a listing: it
can find an entity that is not listed, if a store further left holds other entities only.  What is
listed is always found.
-/

namespace MetadataTrust

/-! ### Asking in turn -/

namespace Resolver

variable {α : Type} {r : Resolver α} {c : Criteria}

lemma firstNonEmpty_cons (r : Resolver α) (more : List (Resolver α)) (c : Criteria) :
    firstNonEmpty (r :: more) c =
      (r c >>= fun found => if found.isEmpty then firstNonEmpty more c else pure found) := rfl

lemma firstNonEmpty_append (rs more : List (Resolver α)) (c : Criteria) :
    firstNonEmpty (rs ++ more) c = (firstNonEmpty rs c >>= fun found =>
      if found.isEmpty then firstNonEmpty more c else pure found) := by
  induction rs with
  | nil => rfl
  | cons r rs ih =>
    rw [List.cons_append, firstNonEmpty_cons, firstNonEmpty_cons, ih]
    cases r c with
    | error err => rfl
    | ok found =>
      by_cases hfound : found.isEmpty = true
      · simp only [bind, Except.bind, hfound, if_true]
      · simp only [bind, Except.bind, pure, Except.pure, hfound, Bool.false_eq_true, if_false]

lemma firstNonEmpty_singleton (r : Resolver α) : firstNonEmpty [r] = r := by
  funext c
  rw [firstNonEmpty_cons]
  cases r c with
  | error err => rfl
  | ok found => cases found <;> rfl

end Resolver

/-! ### The stores of a source -/

namespace MetadataStore

/-- The entities of a store, none before it is refreshed. -/
def entities (s : MetadataStore) : List Entity := (s.snapshot.map Snapshot.entities).getD []

lemma resolver_of_refreshed {s : MetadataStore} (h : s.isRefreshed = true) (c : Criteria) :
    s.resolver c = .ok (s.entities.filter c.wants) := by
  obtain ⟨snapshot, hs⟩ := Option.isSome_iff_exists.1 h
  unfold resolver entities
  rw [hs]
  exact congrArg Except.ok (snapshot.select_eq_filter c)

lemma length_filter_entityId (s : MetadataStore) (x : String) :
    (s.entities.filter (·.entityId = x)).length ≤ 1 := by
  unfold entities
  cases s.snapshot with
  | none => exact Nat.zero_le 1
  | some snapshot => exact snapshot.length_filter_entityId x

end MetadataStore

namespace MetadataSource

mutual

/-- The stores of a source, from left to right. -/
def stores : MetadataSource → List MetadataStore
  | .store s => [s]
  | .chain _ members => storesOfAll members

/-- The stores of sources, from left to right. -/
def storesOfAll : List MetadataSource → List MetadataStore
  | [] => []
  | t :: more => stores t ++ storesOfAll more

end

mutual

/-- **A source asks its stores from left to right**, however its chains are nested. -/
theorem resolver_eq_scan : ∀ t : MetadataSource,
    t.resolver = .firstNonEmpty (t.stores.map MetadataStore.resolver)
  | .store s => by
    rw [resolver, stores, List.map_singleton, Resolver.firstNonEmpty_singleton]
  | .chain _ members => by
    rw [resolver, stores]
    exact resolvers_eq_scan members

theorem resolvers_eq_scan : ∀ members : List MetadataSource,
    Resolver.firstNonEmpty (resolvers members) =
      .firstNonEmpty ((storesOfAll members).map MetadataStore.resolver)
  | [] => rfl
  | t :: more => by
    funext c
    rw [resolvers, storesOfAll, List.map_append, Resolver.firstNonEmpty_cons,
      Resolver.firstNonEmpty_append, resolver_eq_scan t, resolvers_eq_scan more]

end

/-- Metadata is looked up by the entity identifier only. -/
lemma resolver_congr (t : MetadataSource) {c c' : Criteria} (h : c.entityId = c'.entityId) :
    t.resolver c = t.resolver c' := by
  rw [t.resolver_eq_scan]
  induction t.stores with
  | nil => rfl
  | cons s stores ih =>
    have hs : s.resolver c = s.resolver c' := by
      unfold MetadataStore.resolver Snapshot.select
      rw [h]
    rw [List.map_cons, Resolver.firstNonEmpty_cons, Resolver.firstNonEmpty_cons, ih, hs]

/-- All stores of the source have been refreshed. -/
def Refreshed (t : MetadataSource) : Prop := ∀ s ∈ t.stores, s.isRefreshed = true

instance (t : MetadataSource) : Decidable t.Refreshed :=
  inferInstanceAs (Decidable (∀ s ∈ t.stores, s.isRefreshed = true))

end MetadataSource

/-! ### The first store that has something -/

/-- What the first store that has something of what is asked for has of it. -/
def scan (c : Criteria) : List MetadataStore → List Entity
  | [] => []
  | s :: more =>
    if s.entities.filter c.wants = [] then scan c more else s.entities.filter c.wants

section Scan

variable {stores : List MetadataStore} {c : Criteria} {s : MetadataStore} {x : String} {e : Entity}

lemma scan_cons_of_empty (h : s.entities.filter c.wants = []) : scan c (s :: stores) = scan c stores :=
  if_pos h

lemma scan_cons (h : s.entities.filter c.wants ≠ []) :
    scan c (s :: stores) = s.entities.filter c.wants := if_neg h

lemma firstNonEmpty_of_refreshed (h : ∀ s ∈ stores, s.isRefreshed = true) (c : Criteria) :
    Resolver.firstNonEmpty (stores.map MetadataStore.resolver) c = .ok (scan c stores) := by
  induction stores with
  | nil => rfl
  | cons s stores ih =>
    obtain ⟨hs, hstores⟩ := List.forall_mem_cons.1 h
    rw [List.map_cons, Resolver.firstNonEmpty_cons, MetadataStore.resolver_of_refreshed hs]
    by_cases hempty : s.entities.filter c.wants = []
    · rw [scan_cons_of_empty hempty, hempty]
      exact ih hstores
    · rw [scan_cons hempty]
      exact if_neg (by simpa using hempty)

lemma filter_wants_all (l : List Entity) : l.filter ({} : Criteria).wants = l :=
  List.filter_true l

lemma filter_wants_entityId (l : List Entity) (x : String) :
    l.filter ({ entityId := some x } : Criteria).wants = l.filter (·.entityId = x) := rfl

lemma length_scan_entityId (stores : List MetadataStore) (x : String) :
    (scan { entityId := some x } stores).length ≤ 1 := by
  induction stores with
  | nil => exact Nat.zero_le 1
  | cons s stores ih =>
    unfold scan
    split
    · exact ih
    · exact s.length_filter_entityId x

/-- An entity that is listed is what a lookup of its identifier finds. -/
lemma scan_entityId_of_mem (he : e ∈ scan {} stores) (hx : e.entityId = x) :
    scan { entityId := some x } stores = [e] := by
  induction stores with
  | nil => cases he
  | cons s stores ih =>
    by_cases hempty : s.entities = []
    · -- a store without entities is passed over by both queries
      rw [scan_cons_of_empty (by rw [hempty]; rfl)] at he ⊢
      exact ih he
    · rw [scan_cons (by rwa [filter_wants_all]), filter_wants_all] at he
      have hmem : e ∈ s.entities.filter (·.entityId = x) := by simp [he, hx]
      rw [scan_cons (List.ne_nil_of_mem hmem), filter_wants_entityId]
      obtain ⟨f, hf⟩ := List.length_eq_one_iff.1
        (Nat.le_antisymm (s.length_filter_entityId x) (List.length_pos_of_mem hmem))
      rw [hf] at hmem ⊢
      rw [List.mem_singleton.1 hmem]

/-- What a lookup finds is in the first store with an entity of the identifier, and it is listed exactly
if no store before that one has any entities. -/
lemma exists_store_of_mem_scan (he : e ∈ scan { entityId := some x } stores) :
    e.entityId = x ∧ ∃ before s after, stores = before ++ s :: after ∧ e ∈ s.entities ∧
      (∀ u ∈ before, ∀ f ∈ u.entities, f.entityId ≠ x) ∧
      (e ∈ scan {} stores ↔ ∀ u ∈ before, u.entities = []) := by
  induction stores with
  | nil => cases he
  | cons s stores ih =>
    by_cases hempty : s.entities.filter ({ entityId := some x } : Criteria).wants = []
    · rw [scan_cons_of_empty hempty] at he
      rw [filter_wants_entityId] at hempty
      obtain ⟨hx, before, u, after, hsplit, hu, hbefore, hlisted⟩ := ih he
      have hs : ∀ f ∈ s.entities, f.entityId ≠ x := by
        simpa using List.filter_eq_nil_iff.1 hempty
      refine ⟨hx, s :: before, u, after, by rw [hsplit]; rfl, hu,
        List.forall_mem_cons.2 ⟨hs, hbefore⟩, ?_⟩
      rw [List.forall_mem_cons, ← hlisted]
      by_cases hnone : s.entities = []
      · rw [scan_cons_of_empty (by rw [hnone]; rfl)]
        exact (and_iff_right hnone).symm
      · -- the listing stops at `s`, which does not have `e`
        rw [scan_cons (by rwa [filter_wants_all]), filter_wants_all]
        exact iff_of_false (fun hmem => hs e hmem hx) (fun h => hnone h.1)
    · rw [scan_cons hempty, filter_wants_entityId, List.mem_filter, decide_eq_true_iff] at he
      have hne : s.entities ≠ [] := List.ne_nil_of_mem he.1
      refine ⟨he.2, [], s, stores, rfl, he.1, by simp, ?_⟩
      rw [scan_cons (by rwa [filter_wants_all]), filter_wants_all]
      exact iff_of_true he.1 (by simp)

end Scan

/-! ### Lookups and listings -/

/-- **What is listed is found, and what is found is listed unless a store with other entities comes
before it.**  A source whose stores have all been refreshed gives a listing, and to a lookup at most one
entity.  An entity that is listed is what a lookup of its identifier finds.  An entity that a lookup finds
is that of the first store with one of this identifier, and it is listed exactly if all stores before
that one are empty. -/
theorem MetadataSource.lookup_listed_iff (t : MetadataSource) (ht : t.Refreshed) (x : String) :
    ∃ listing found, t.resolver {} = .ok listing ∧ t.resolver { entityId := some x } = .ok found ∧
      found.length ≤ 1 ∧
      (∀ e ∈ listing, e.entityId = x → found = [e]) ∧
      ∀ e ∈ found, e.entityId = x ∧ ∃ before s after, t.stores = before ++ s :: after ∧
        e ∈ s.entities ∧ (∀ u ∈ before, ∀ f ∈ u.entities, f.entityId ≠ x) ∧
        (e ∈ listing ↔ ∀ u ∈ before, u.entities = []) := by
  rw [t.resolver_eq_scan]
  refine ⟨scan {} t.stores, scan { entityId := some x } t.stores, firstNonEmpty_of_refreshed ht _,
    firstNonEmpty_of_refreshed ht _, length_scan_entityId _ x, ?_, ?_⟩
  · intro e he hx
    exact scan_entityId_of_mem he hx
  · intro e he
    exact exists_store_of_mem_scan he

/-! ### A chain of two stores -/

namespace ChainSample

/-- The first entity of a federation. -/
def first : Entity := { entityId := "https://a.example.org" }

def second : Entity := { entityId := "https://b.example.org" }

def store (id : String) (e : Entity) : MetadataStore :=
  { id := id, snapshot := some (.ofList [e]) }

/-- A chain of a store with the first entity and a store with the second one. -/
def chain : MetadataSource := .chain "chain" [.store (store "a" first), .store (store "b" second)]

/-- A lookup finds the second entity, which is not listed. -/
theorem found_not_listed :
    chain.Refreshed ∧
    ¬ ∀ found listing, chain.resolver { entityId := some second.entityId } = .ok found →
      chain.resolver {} = .ok listing → ∀ e ∈ found, e ∈ listing := by
  refine ⟨by decide, fun h => ?_⟩
  have hlisted := h [second] [first] (by decide) (by decide) second (by decide)
  exact absurd hlisted (by decide)

/-- The first entity is listed, so it is found. -/
theorem listed_found :
    chain.Refreshed ∧ chain.resolver {} = .ok [first] ∧
      chain.resolver { entityId := some first.entityId } = .ok [first] := by
  have hrefreshed : chain.Refreshed := by decide
  have hlisting : chain.resolver {} = .ok [first] := by decide
  obtain ⟨listing, found, hok, hfound, -, hlisted, -⟩ :=
    chain.lookup_listed_iff hrefreshed first.entityId
  obtain rfl := Except.ok.inj (hlisting.symm.trans hok)
  rw [hlisted first (by decide) rfl] at hfound
  exact ⟨hrefreshed, hlisting, hfound⟩

end ChainSample

end MetadataTrust
