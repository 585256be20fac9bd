import MetadataTrust.Metadata.Store

/-!
Chains of resolvers as they work.

Asking a resolver may do more than give an answer: it looks at a state, and it may leave another one.  What
it finds is handed out one item at a time.  To see whether a member has found anything, a chain takes the
first item and puts it back; so what a chain hands out went through one hand more for each chain around the
resolver that found it.
-/

namespace MetadataTrust

variable {σ α : Type}

/-! ### Iterators -/

/-- Items that were resolved and are handed out one at a time. -/
inductive ItemIterator (α : Type) where
  | cursor (rest : Cursor α)
  /-- An item was taken and put back. -/
  | putBack (item : α) (rest : ItemIterator α)

namespace ItemIterator

/-- Nothing to hand out. -/
def empty : ItemIterator α := .cursor ⟨[]⟩

/-- The next item, and the iterator after it. -/
def next : ItemIterator α → Option α × ItemIterator α
  | .cursor c =>
    let (item, rest) := c.next
    (item, .cursor rest)
  | .putBack item rest => (some item, rest)

/-- The next item, which is put back, and the iterator with it. -/
def peek (it : ItemIterator α) : Option α × ItemIterator α :=
  match it.next with
  | (some item, rest) => (some item, .putBack item rest)
  | (none, rest) => (none, rest)

/-- The items that are still to be handed out. -/
def items : ItemIterator α → List α
  | .cursor c => c.remaining
  | .putBack item rest => item :: rest.items

end ItemIterator

/-! ### Resolvers with a state -/

/-- A resolver that looks at a state and may change it, also where it fails. -/
abbrev LiveResolver (σ α : Type) := Criteria → σ → Except ResolutionError (ItemIterator α) × σ

namespace LiveResolver

/-- A resolver that leaves the state alone. -/
def still (r : Resolver α) : LiveResolver σ α := fun c s =>
  ((r c).map fun found => .cursor ⟨found⟩, s)

/-- What a resolver finds, without the way in which it is handed out, and the state that it leaves. -/
def answer (r : LiveResolver σ α) (c : Criteria) (s : σ) : Except ResolutionError (List α) × σ :=
  ((r c s).1.map ItemIterator.items, (r c s).2)

/-- Asks the members in turn.  The first that finds something decides, and so does an error. -/
def chain : List (LiveResolver σ α) → LiveResolver σ α
  | [], _, s => (.ok .empty, s)
  | r :: more, c, s =>
    match r c s with
    | (.error err, s) => (.error err, s)
    | (.ok found, s) =>
      let (first, found) := found.peek
      if first.isSome then (.ok found, s) else chain more c s

end LiveResolver

/-! ### Nested chains -/

/-- Resolvers, and chains of them nested in any way. -/
inductive ResolverTree (σ α : Type) where
  | leaf (r : LiveResolver σ α)
  | chain (id : String) (members : List (ResolverTree σ α))

namespace ResolverTree

mutual

/-- The tree as one resolver. -/
def resolver : ResolverTree σ α → LiveResolver σ α
  | .leaf r => r
  | .chain _ members => .chain (resolvers members)

/-- Trees as resolvers. -/
def resolvers : List (ResolverTree σ α) → List (LiveResolver σ α)
  | [] => []
  | t :: more => resolver t :: resolvers more

end

end ResolverTree

namespace MetadataSource

mutual

/-- The chains of a source, with its stores as leaves. -/
def tree : MetadataSource → ResolverTree σ Entity
  | .store s => .leaf (.still s.resolver)
  | .chain id members => .chain id (trees members)

/-- The chains of sources. -/
def trees : List MetadataSource → List (ResolverTree σ Entity)
  | [] => []
  | s :: more => tree s :: trees more

end

end MetadataSource

end MetadataTrust
