import MetadataTrust.CredentialStore

/-!
A store of credentials as it works over time.

Collections stand in memory and are not changed there: an update puts another collection beside them and
points the store at it.  A resolution gives an iterator, which points at the collection that the store
had then, and searches the positions that this collection had.
-/

namespace MetadataTrust

/-! ### Iterators -/

/-- A search through positions of a collection for the credentials that match. -/
structure CredentialIterator where
  criteria : Criteria
  /-- Where the collection stands in memory. -/
  place : Nat
  /-- The first position that has not been searched. -/
  position : Nat
  /-- How many positions there are to search from there on. -/
  remaining : Nat

namespace CredentialIterator

/-- Searches positions one after another for a credential that matches, and gives it with the first
position after it and the number of positions that are left. -/
def seek (ks : List Credential) (c : Criteria) :
    (position remaining : Nat) → position + remaining ≤ ks.length → Option Credential × Nat × Nat
  | i, 0, _ => (none, i, 0)
  | i, n + 1, h =>
    if c.admits ks[i] then (some ks[i], i + 1, n) else seek ks c (i + 1) n (by omega)

/-- The collection is in memory, and the search does not go beyond its end. -/
structure Inside (it : CredentialIterator) (memory : List CredentialStore) : Prop where
  place_lt : it.place < memory.length
  range_le : it.position + it.remaining ≤ memory[it.place].credentials.length

/-- The next credential, and the iterator after it. -/
def next (it : CredentialIterator) {memory : List CredentialStore} (h : it.Inside memory) :
    Option Credential × CredentialIterator :=
  have := h.place_lt
  let (found, position, remaining) :=
    seek memory[it.place].credentials it.criteria it.position it.remaining h.range_le
  (found, { it with position := position, remaining := remaining })

section

variable {it : CredentialIterator} {memory : List CredentialStore}

/-- A search stops where it always would. -/
theorem seek_range {ks : List Credential} {c : Criteria} {i n : Nat} (h : i + n ≤ ks.length) :
    (seek ks c i n h).2.1 + (seek ks c i n h).2.2 = i + n := by
  induction n generalizing i with
  | zero => rfl
  | succ n ih =>
    unfold seek
    split
    · exact Nat.add_right_comm i 1 n
    · rw [ih]
      exact Nat.add_right_comm i 1 n

theorem Inside.next (h : it.Inside memory) : (it.next h).2.Inside memory where
  place_lt := h.place_lt
  range_le := Nat.le_trans (Nat.le_of_eq (seek_range h.range_le)) h.range_le

/-- Another collection in memory leaves an iterator where it is. -/
theorem Inside.append (h : it.Inside memory) (more : List CredentialStore) :
    it.Inside (memory ++ more) where
  place_lt := List.length_append ▸ Nat.lt_add_right _ h.place_lt
  range_le := by
    rw [List.getElem_append_left h.place_lt]
    exact h.range_le

end

end CredentialIterator

/-! ### The store -/

namespace CredentialStore

/-- A store, the collections that it points at or pointed at, and the iterators that were opened on it,
numbered in that order. -/
structure Session where
  memory : List CredentialStore
  /-- Where the store's collection stands. -/
  current : Nat
  iterators : List CredentialIterator := []
  current_lt : current < memory.length
  inside : ∀ it ∈ iterators, it.Inside memory

/-- What is done with a store over time. -/
inductive Step where
  | add (credential : Credential)
  | replaceAll (credentials : List Credential)
  /-- Opens an iterator. -/
  | resolve (criteria : Criteria)
  /-- Asks an iterator, by its number, for the next credential. -/
  | next (iterator : Nat)

/-- What a step answers. -/
inductive Answer where
  | updated
  /-- The number of the iterator that was opened. -/
  | opened (iterator : Nat)
  | handed (credential : Option Credential)
deriving DecidableEq

namespace Session

/-- A store of the given credentials, on which nothing has been opened. -/
def start (initial : List Credential) : Session where
  memory := [⟨initial⟩]
  current := 0
  current_lt := Nat.zero_lt_one
  inside _ hit := absurd hit List.not_mem_nil

/-- The collection of the store. -/
def store (s : Session) : CredentialStore :=
  have := s.current_lt
  s.memory[s.current]

/-- Puts a collection in memory and points the store at it. -/
def update (s : Session) (next : CredentialStore) : Session where
  memory := s.memory ++ [next]
  current := s.memory.length
  iterators := s.iterators
  current_lt := by simp
  inside it hit := (s.inside it hit).append [next]

/-- Opens an iterator over the collection of the store. -/
def openIterator (s : Session) (c : Criteria) : Session := {
  s with
  iterators := s.iterators ++ [⟨c, s.current, 0, s.store.size⟩]
  inside := fun it hit => by
    rcases List.mem_append.1 hit with hit | hit
    · exact s.inside it hit
    · obtain rfl := List.mem_singleton.1 hit
      exact ⟨s.current_lt, Nat.le_of_eq (Nat.zero_add _)⟩ }

/-- Asks an iterator for the next credential. -/
def advance (s : Session) (n : Nat) (h : n < s.iterators.length) : Option Credential × Session :=
  have hinside := s.inside s.iterators[n] (List.getElem_mem h)
  let handed := s.iterators[n].next hinside
  (handed.1, {
    s with
    iterators := s.iterators.set n handed.2
    inside := fun it hit => by
      rcases List.mem_or_eq_of_mem_set hit with hit | rfl
      · exact s.inside it hit
      · exact hinside.next })

/-- Does one step. -/
def step (s : Session) : Step → Answer × Session
  | .add k => (.updated, s.update (s.store.add k))
  | .replaceAll ks => (.updated, s.update (s.store.replaceAll ks))
  | .resolve c => (.opened s.iterators.length, s.openIterator c)
  | .next n =>
    if h : n < s.iterators.length then (.handed (s.advance n h).1, (s.advance n h).2)
    else (.handed none, s)

/-- Does steps one after another. -/
def run (s : Session) : List Step → List Answer × Session
  | [] => ([], s)
  | a :: more =>
    let (answer, t) := s.step a
    let (answers, u) := t.run more
    (answer :: answers, u)

end Session

end CredentialStore

end MetadataTrust
