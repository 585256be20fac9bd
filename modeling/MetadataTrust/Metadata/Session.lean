import MetadataTrust.Metadata.Store

/-!
A metadata store as it works over time.

The contents are entities one after another and a table of their places, which a refresh builds up one
entity at a time.  A resolution gives an iterator, which keeps the contents that it goes through: a
later refresh puts other contents in the store and does not touch these.
-/

namespace MetadataTrust

/-! ### Contents with a table -/

/-- Entities in order, and a table of their places by identifier. -/
structure EntityIndex where
  entities : Array Entity
  places : List (String × Nat)
  /-- The table has the place of every entity and nothing else. -/
  located : ∀ x i, places.lookup x = some i ↔ entities[i]?.map Entity.entityId = some x

namespace EntityIndex

/-- No entities. -/
def empty : EntityIndex := ⟨#[], [], by simp⟩

theorem place_lt {t : EntityIndex} {x : String} {i : Nat} (h : t.places.lookup x = some i) :
    i < t.entities.size := by
  obtain ⟨e, he, -⟩ := Option.map_eq_some_iff.1 ((t.located x i).1 h)
  exact (Array.getElem?_eq_some_iff.1 he).1

theorem located_push {t : EntityIndex} {e : Entity} (hnew : t.places.lookup e.entityId = none)
    (x : String) (i : Nat) :
    ((e.entityId, t.entities.size) :: t.places).lookup x = some i ↔
      (t.entities.push e)[i]?.map Entity.entityId = some x := by
  have hold := t.located x i
  rw [List.lookup_cons, Array.getElem?_push]
  by_cases hi : i = t.entities.size
  · subst hi
    have hnone : t.places.lookup x ≠ some t.entities.size :=
      fun h => absurd (place_lt h) (Nat.lt_irrefl _)
    by_cases hx : x = e.entityId
    · simp [hx]
    · simp [beq_false_of_ne hx, hnone, Ne.symm hx]
  · by_cases hx : x = e.entityId
    · subst hx
      rw [hnew] at hold
      simpa [hi, Ne.symm hi] using hold
    · simpa [hi, beq_false_of_ne hx] using hold

/-- Adds an entity at the end, unless there is one with its identifier. -/
def add (t : EntityIndex) (e : Entity) : EntityIndex :=
  match h : t.places.lookup e.entityId with
  | some _ => t
  | none => ⟨t.entities.push e, (e.entityId, t.entities.size) :: t.places, located_push h⟩

/-- Adds what the filter makes of each entity of a batch, up to the first error. -/
def load (sift : Entity → FilterResult) : List Entity → EntityIndex → Except MetadataError EntityIndex
  | [], t => .ok t
  | e :: more, t => do
    match ← sift e with
    | some kept => load sift more (t.add kept)
    | none => load sift more t

/-- The entity of an identifier, at the place that the table gives. -/
def find? (t : EntityIndex) (x : String) : Option Entity :=
  match h : t.places.lookup x with
  | some i => have := place_lt h; some t.entities[i]
  | none => none

theorem distinct (t : EntityIndex) :
    t.entities.toList.Pairwise fun a b => a.entityId ≠ b.entityId := by
  refine List.pairwise_iff_getElem.2 fun i j hi hj hij heq => ?_
  have hplace (n : Nat) (hn : n < t.entities.toList.length) :
      t.places.lookup t.entities.toList[n].entityId = some n := by
    rw [t.located, Array.getElem?_eq_getElem (by simpa using hn)]
    rfl
  have hplaces := hplace i hi
  rw [heq, hplace j hj] at hplaces
  exact absurd (Option.some.inj hplaces) (Nat.ne_of_gt hij)

/-- The contents without the table. -/
def snapshot (t : EntityIndex) : Snapshot := ⟨t.entities.toList, t.distinct⟩

end EntityIndex

/-! ### Iterators -/

/-- Entities that were resolved and are handed out one at a time. -/
inductive EntityIterator where
  /-- The entity that was found by its identifier, if any. -/
  | found (entity : Option Entity)
  /-- The entities of some contents from a position on. -/
  | scan (contents : EntityIndex) (position : Nat)

/-- The next entity, and the iterator after it. -/
def EntityIterator.next : EntityIterator → Option Entity × EntityIterator
  | .found entity => (entity, .found none)
  | .scan contents position =>
    if h : position < contents.entities.size then
      (some contents.entities[position], .scan contents (position + 1))
    else (none, .scan contents position)

/-- The entities that are still to be handed out. -/
def EntityIterator.items : EntityIterator → List Entity
  | .found entity => entity.toList
  | .scan contents position => contents.entities.toList.drop position

/-! ### The store -/

/-- A store of metadata with its table. -/
structure IndexedStore where
  id : String
  /-- What every entity goes through on a refresh. -/
  filter : Option MetadataFilter := none
  /-- The contents, once the store has been refreshed. -/
  contents : Option EntityIndex := none

namespace IndexedStore

/-- The store without its table. -/
def toStore (s : IndexedStore) : MetadataStore :=
  ⟨s.id, s.filter, s.contents.map EntityIndex.snapshot⟩

/-- Builds the contents of a batch and then puts them in the store; the answer is their number. -/
def refresh (s : IndexedStore) (now : Instant) (batch : List Entity) :
    Except MetadataError Nat × IndexedStore :=
  match EntityIndex.load (s.toStore.sift now) batch .empty with
  | .ok next => (.ok next.entities.size, { s with contents := some next })
  | .error err => (.error err, s)

/-- An iterator over the entities that match criteria. -/
def resolve (s : IndexedStore) (c : Criteria) : Except ResolutionError EntityIterator :=
  match s.contents with
  | none => .error (.notRefreshed s.id)
  | some t =>
    match c.entityId with
    | some x => .ok (.found (t.find? x))
    | none => .ok (.scan t 0)

/-- The store as a resolver of entities. -/
def resolver (s : IndexedStore) : Resolver Entity := fun c => do return (← s.resolve c).items

/-! ### What is done with a store -/

/-- What is done with a store over time. -/
inductive Step where
  | refresh (now : Instant) (batch : List Entity)
  /-- Opens an iterator. -/
  | resolve (criteria : Criteria)
  /-- Asks an iterator, by its number, for the next entity. -/
  | next (iterator : Nat)

/-- What a step answers. -/
inductive Answer where
  | refreshed (outcome : Except MetadataError Nat)
  /-- The number of the iterator that was opened. -/
  | opened (outcome : Except ResolutionError Nat)
  | handed (entity : Option Entity)

/-- A store and the iterators that were opened on it, numbered in that order. -/
structure Session where
  store : IndexedStore
  iterators : List EntityIterator := []

namespace Session

/-- Does one step. -/
def step (s : Session) : Step → Answer × Session
  | .refresh now batch =>
    let (outcome, store) := s.store.refresh now batch
    (.refreshed outcome, { s with store := store })
  | .resolve c =>
    match s.store.resolve c with
    | .ok opened =>
      (.opened (.ok s.iterators.length), { s with iterators := s.iterators ++ [opened] })
    | .error err => (.opened (.error err), s)
  | .next n =>
    match s.iterators[n]? with
    | some it => (.handed it.next.1, { s with iterators := s.iterators.set n it.next.2 })
    | none => (.handed none, s)

/-- Does steps one after another. -/
def run (s : Session) : List Step → List Answer × Session
  | [] => ([], s)
  | a :: more =>
    let (answer, t) := s.step a
    let (answers, u) := t.run more
    (answer :: answers, u)

end Session

end IndexedStore

end MetadataTrust
