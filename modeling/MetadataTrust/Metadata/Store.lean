import MetadataTrust.Filter.Basic
import MetadataTrust.Resolution

/-!
Stores of metadata, and chains of them.

A refresh filters a batch of entities and replaces the store's contents; if the filter fails, the
store stays as it was.  A store that has never been refreshed is unavailable.
-/

namespace MetadataTrust

/-- The entities whose identifiers are not in `seen`, and of those with the same identifier the first
one. -/
def keepFirst (seen : List String) : List Entity → List Entity
  | [] => []
  | e :: more =>
    if e.entityId ∈ seen then keepFirst seen more
    else e :: keepFirst (e.entityId :: seen) more

theorem mem_keepFirst {seen : List String} {l : List Entity} {e : Entity}
    (h : e ∈ keepFirst seen l) : e ∈ l ∧ e.entityId ∉ seen := by
  induction l generalizing seen with
  | nil => simp [keepFirst] at h
  | cons a l ih =>
    unfold keepFirst at h
    split at h
    · exact ⟨List.mem_cons_of_mem _ (ih h).1, (ih h).2⟩
    · rename_i ha
      rcases List.mem_cons.1 h with rfl | h
      · exact ⟨List.mem_cons_self, ha⟩
      · exact ⟨List.mem_cons_of_mem _ (ih h).1,
          fun hs => (ih h).2 (List.mem_cons_of_mem _ hs)⟩

theorem pairwise_keepFirst (seen : List String) (l : List Entity) :
    (keepFirst seen l).Pairwise fun a b => a.entityId ≠ b.entityId := by
  induction l generalizing seen with
  | nil => exact .nil
  | cons a l ih =>
    unfold keepFirst
    split
    · exact ih seen
    · refine List.pairwise_cons.2 ⟨fun b hb hab => ?_, ih _⟩
      exact (mem_keepFirst hb).2 (hab ▸ List.mem_cons_self)

/-- Entities with distinct identifiers, in order. -/
structure Snapshot where
  entities : List Entity
  distinct : entities.Pairwise fun a b => a.entityId ≠ b.entityId

/-- The first entity of each identifier. -/
def Snapshot.ofList (l : List Entity) : Snapshot := ⟨keepFirst [] l, pairwise_keepFirst [] l⟩

/-- The entities that match criteria: the one with the identifier that is asked for, or all. -/
def Snapshot.select (s : Snapshot) (c : Criteria) : List Entity :=
  match c.entityId with
  | some id => (s.entities.find? (·.entityId = id)).toList
  | none => s.entities

/-- A store of metadata. -/
structure MetadataStore where
  id : String
  /-- What every entity goes through on a refresh. -/
  filter : Option MetadataFilter := none
  /-- The contents, once the store has been refreshed. -/
  snapshot : Option Snapshot := none

namespace MetadataStore

/-- What the store's filter makes of an entity. -/
def sift (s : MetadataStore) (now : Instant) (e : Entity) : FilterResult :=
  match s.filter with
  | some f => f.apply now e
  | none => .ok (some e)

/-- The contents that a batch would give, or the error of the first entity on which the filter fails. -/
def filtered (s : MetadataStore) (now : Instant) (batch : List Entity) :
    Except MetadataError Snapshot := do
  return .ofList ((← batch.mapM (s.sift now)).filterMap fun kept => kept)

/-- Replaces the contents by a filtered batch, and counts the entities that are kept.  After an error
the store is as before. -/
def refresh (s : MetadataStore) (now : Instant) (batch : List Entity) :
    Except MetadataError Nat × MetadataStore :=
  match s.filtered now batch with
  | .ok next => (.ok next.entities.length, { s with snapshot := some next })
  | .error err => (.error err, s)

/-- Whether the store has been refreshed. -/
def isRefreshed (s : MetadataStore) : Bool := s.snapshot.isSome

/-- The store as a resolver of entities. -/
def resolver (s : MetadataStore) : Resolver Entity := fun c =>
  match s.snapshot with
  | some snapshot => .ok (snapshot.select c)
  | none => .error (.notRefreshed s.id)

/-- The store as diagnostics show it. -/
def describe (s : MetadataStore) : String :=
  Text.record "InMemoryMetadataResolver"
    [("id", Text.quoted s.id), ("filtered", toString s.filter.isSome)] true

end MetadataStore

/-! ### Chains -/

/-- Asks the resolvers in turn.  The first that finds something decides, and so does an error. -/
def Resolver.firstNonEmpty {α : Type} : List (Resolver α) → Resolver α
  | [], _ => .ok []
  | r :: more, c => do
    let found ← r c
    if found.isEmpty then firstNonEmpty more c else return found

/-- A source of metadata. -/
inductive MetadataSource where
  | store (s : MetadataStore)
  /-- Sources that are asked in turn. -/
  | chain (id : String) (members : List MetadataSource)

namespace MetadataSource

/-- The identifier of the source. -/
def id : MetadataSource → String
  | .store s => s.id
  | .chain id _ => id

mutual

/-- The source as a resolver of entities. -/
def resolver : MetadataSource → Resolver Entity
  | .store s => s.resolver
  | .chain _ members => .firstNonEmpty (resolvers members)

/-- Sources as resolvers. -/
def resolvers : List MetadataSource → List (Resolver Entity)
  | [] => []
  | s :: more => resolver s :: resolvers more

end

end MetadataSource

/-! ### Several sources together -/

/-- How a source is set up. -/
inductive SourceSetup where
  | store (s : MetadataStore)
  /-- A chain of sources that were set up before it, by their identifiers. -/
  | chain (id : String) (members : List String)

/-- The identifier of the source. -/
def SourceSetup.id : SourceSetup → String
  | .store s => s.id
  | .chain id _ => id

/-- Sources that were set up one after another, the last one first. -/
abbrev Sources := List SourceSetup

namespace Sources

/-- The source of an identifier, as it stands now. -/
def get? (id : String) : Sources → Option MetadataSource
  | [] => none
  | setup :: before =>
    if setup.id = id then
      match setup with
      | .store s => some (.store s)
      | .chain id members => do return .chain id (← members.mapM fun m => get? m before)
    else get? id before

/-- The store of an identifier. -/
def store? (id : String) : Sources → Option MetadataStore
  | [] => none
  | .store s :: before => if s.id = id then some s else store? id before
  | .chain .. :: before => store? id before

/-- Puts a changed store in the place of the one with its identifier. -/
def update (s : MetadataStore) : Sources → Sources
  | [] => []
  | .store t :: before => if t.id = s.id then .store s :: before else .store t :: update s before
  | .chain id members :: before => .chain id members :: update s before

end Sources

end MetadataTrust
