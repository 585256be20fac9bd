import MetadataTrust.CredentialStore.Session
import MetadataTrust.Proofs.Handing
import MetadataTrust.Proofs.KeyInfo.Precedence

/-!
# A store of credentials over time

Updates, resolutions and the steps of iterators may come in any order.  What is in memory stays there as it
is (`memory_prefix_step`), so an iterator goes on with the collection that it was opened over, and hands out
the credentials in it that satisfy every criterion, whatever happens to the store (`handed_openIterator`).
The collection of the store is what was put there last, with everything that was added since.
-/

namespace MetadataTrust

/-! ### Criteria that concern credentials -/

namespace Criteria

/-- The credential satisfies every criterion that concerns credentials. -/
structure SatisfiedBy (c : Criteria) (k : Credential) : Prop where
  entity : ∀ x, c.entityId = some x → k.entityId = some x
  name : ∀ name, c.keyName = some name → name ∈ k.keyNames
  key : ∀ key, c.publicKey = some key → k.publicKey.map (·.encoded) = some key.encoded
  usage : ∀ u, c.usage = some u → k.usage = .unspecified ∨ u = .unspecified ∨ k.usage = u

variable {c : Criteria} {k : Credential}

lemma compatible_iff {declared wanted : KeyUsage} :
    declared.compatible wanted = true ↔
      declared = .unspecified ∨ wanted = .unspecified ∨ declared = wanted := by
  simp only [KeyUsage.compatible, Bool.or_eq_true, decide_eq_true_eq, or_assoc]

theorem admits_iff : c.admits k = true ↔ c.SatisfiedBy k := by
  have hentity : c.entityId.all (fun x => k.entityId = some x) = true ↔
      ∀ x, c.entityId = some x → k.entityId = some x := by
    simp [Option.all_eq_true]
  have hname : c.keyName.all (fun name => name ∈ k.keyNames) = true ↔
      ∀ name, c.keyName = some name → name ∈ k.keyNames := by
    simp [Option.all_eq_true]
  have hkey : c.publicKey.all (fun key => k.publicKey = some key) = true ↔
      ∀ key, c.publicKey = some key → k.publicKey.map (·.encoded) = some key.encoded := by
    simp only [Option.all_eq_true, decide_eq_true_eq, CredentialStore.publicKey_eq_iff]
  have husage : c.usage.all (fun u => k.usage.compatible u) = true ↔
      ∀ u, c.usage = some u → k.usage = .unspecified ∨ u = .unspecified ∨ k.usage = u := by
    simp [Option.all_eq_true, compatible_iff]
  unfold admits
  simp only [Bool.and_eq_true, hentity, hname, hkey, husage]
  constructor
  · rintro ⟨⟨⟨h₁, h₂⟩, h₃⟩, h₄⟩
    exact ⟨h₁, h₂, h₃, h₄⟩
  · rintro ⟨h₁, h₂, h₃, h₄⟩
    exact ⟨⟨⟨h₁, h₂⟩, h₃⟩, h₄⟩

instance (c : Criteria) : DecidablePred c.SatisfiedBy := fun _ => decidable_of_iff _ admits_iff

lemma admits_eq (c : Criteria) : c.admits = fun k => decide (c.SatisfiedBy k) := by
  funext k
  by_cases h : c.SatisfiedBy k
  · rw [admits_iff.2 h, decide_eq_true h]
  · rw [decide_eq_false h]
    exact Bool.eq_false_iff.2 fun hadmits => h (admits_iff.1 hadmits)

/-- A criterion that is added excludes more. -/
lemma SatisfiedBy.of_add {x : Criterion} (hnew : c.has x.kind = false) (h : (c.add x).SatisfiedBy k) :
    c.SatisfiedBy k := by
  obtain ⟨hentity, hname, hkey, husage⟩ := h
  cases x with
  | entityId id =>
    have hnone : c.entityId = none := by simpa [has, get?, Criterion.kind] using hnew
    exact ⟨by simp [hnone], hname, hkey, husage⟩
  | keyName name =>
    have hnone : c.keyName = none := by simpa [has, get?, Criterion.kind] using hnew
    exact ⟨hentity, by simp [hnone], hkey, husage⟩
  | publicKey key =>
    have hnone : c.publicKey = none := by simpa [has, get?, Criterion.kind] using hnew
    exact ⟨hentity, hname, by simp [hnone], husage⟩
  | usage u =>
    have hnone : c.usage = none := by simpa [has, get?, Criterion.kind] using hnew
    exact ⟨hentity, hname, hkey, by simp [hnone]⟩
  | keyInfo | role | protocol => exact ⟨hentity, hname, hkey, husage⟩

end Criteria

/-! ### Iterators -/

namespace CredentialIterator

/-- The credentials of the collection that are still to be handed out. -/
def items (it : CredentialIterator) (ks : List Credential) : List Credential :=
  ((ks.drop it.position).take it.remaining).filter it.criteria.admits

section Seek

variable {ks : List Credential} {c : Criteria} {i n : Nat}

/-- The positions that are left begin with the first one of them. -/
lemma take_drop_succ (hi : i < ks.length) :
    (ks.drop i).take (n + 1) = ks[i] :: (ks.drop (i + 1)).take n := by
  rw [List.drop_eq_getElem_cons hi, List.take_succ_cons]

theorem seek_fst (h : i + n ≤ ks.length) :
    (seek ks c i n h).1 = (((ks.drop i).take n).filter c.admits).head? := by
  induction n generalizing i with
  | zero => rfl
  | succ n ih =>
    rw [take_drop_succ (by omega)]
    unfold seek
    by_cases hadmits : c.admits ks[i] = true
    · rw [if_pos hadmits, List.filter_cons_of_pos hadmits, List.head?_cons]
    · rw [if_neg hadmits, List.filter_cons_of_neg hadmits]
      exact ih _

theorem seek_left (h : i + n ≤ ks.length) :
    ((ks.drop (seek ks c i n h).2.1).take (seek ks c i n h).2.2).filter c.admits =
      (((ks.drop i).take n).filter c.admits).tail := by
  induction n generalizing i with
  | zero =>
    unfold seek
    simp only [List.take_zero, List.filter_nil, List.tail_nil]
  | succ n ih =>
    rw [take_drop_succ (by omega)]
    unfold seek
    by_cases hadmits : c.admits ks[i] = true
    · rw [if_pos hadmits, List.filter_cons_of_pos hadmits, List.tail_cons]
    · rw [if_neg hadmits, List.filter_cons_of_neg hadmits]
      exact ih _

end Seek

section Next

variable {it : CredentialIterator} {memory : List CredentialStore} {collection : CredentialStore}

/-- An iterator that is asked hands out its first item and keeps the others, and stays where it is. -/
theorem next_spec (h : it.Inside memory) (hplace : memory[it.place]? = some collection) :
    (it.next h).1 = (it.items collection.credentials).head? ∧
      (it.next h).2.place = it.place ∧
      (it.next h).2.items collection.credentials = (it.items collection.credentials).tail := by
  obtain rfl : memory.get ⟨it.place, h.place_lt⟩ = collection := by
    have hget := List.getElem?_eq_getElem h.place_lt
    exact Option.some.inj (hget.symm.trans hplace)
  exact ⟨seek_fst h.range_le, rfl, seek_left h.range_le⟩

end Next

end CredentialIterator

/-! ### One step -/

namespace CredentialStore

namespace Step

/-- Whether a step asks the iterator of a number. -/
def asks (n : Nat) : Step → Bool
  | .next m => m = n
  | .add _ | .replaceAll _ | .resolve _ => false

/-- The credential that a step adds. -/
def added? : Step → Option Credential
  | .add k => some k
  | .replaceAll _ | .resolve _ | .next _ => none

/-- The credential, or nothing more, that the iterator of a number hands out in a step. -/
def handedBy (n : Nat) (a : Step) : Answer → Option (Option Credential)
  | .handed k => if a.asks n then some k else none
  | .updated | .opened _ => none

lemma asks_iff {n : Nat} {a : Step} : a.asks n = true ↔ a = .next n := by
  cases a <;> simp [asks]

lemma handedBy_of_not_asks {n : Nat} {a : Step} (h : a.asks n = false) (answer : Answer) :
    a.handedBy n answer = none := by
  cases answer with
  | handed k => exact if_neg (by simp [h])
  | updated | opened _ => rfl

end Step

namespace Session

variable {s : Session} {a : Step} {steps : List Step} {n : Nat} {it : CredentialIterator}
  {collection : CredentialStore}

lemma store_eq (s : Session) : s.memory[s.current]? = some s.store :=
  List.getElem?_eq_getElem s.current_lt

lemma store_update (s : Session) (next : CredentialStore) : (s.update next).store = next := by
  have hstore := (s.update next).store_eq
  have hlast : (s.update next).memory[(s.update next).current]? = some next :=
    List.getElem?_concat_length
  exact Option.some.inj (hstore.symm.trans hlast)

lemma step_next (h : n < s.iterators.length) :
    s.step (.next n) = (.handed (s.advance n h).1, (s.advance n h).2) := dif_pos h

lemma step_next_none (h : ¬ n < s.iterators.length) : s.step (.next n) = (.handed none, s) :=
  dif_neg h

/-- **No step changes what is in memory**; updates put something behind it. -/
theorem memory_prefix_step (s : Session) (a : Step) : s.memory <+: (s.step a).2.memory := by
  cases a with
  | add k => exact List.prefix_append _ _
  | replaceAll ks => exact List.prefix_append _ _
  | resolve c => exact List.prefix_rfl
  | next n =>
    have hsame : (s.step (.next n)).2.memory = s.memory := by
      by_cases hn : n < s.iterators.length
      · exact congrArg (fun r => r.2.memory) (step_next hn)
      · exact congrArg (fun r => r.2.memory) (step_next_none hn)
    exact ⟨[], (List.append_nil s.memory).trans hsame.symm⟩

/-- Only steps that ask an iterator move it. -/
lemma iterators_step (h : s.iterators[n]? = some it) (ha : a.asks n = false) :
    (s.step a).2.iterators[n]? = some it := by
  cases a with
  | add k => exact h
  | replaceAll ks => exact h
  | resolve c =>
    have hn : n < s.iterators.length := (List.getElem?_eq_some_iff.1 h).1
    exact (List.getElem?_append_left hn).trans h
  | next m =>
    have hmn : m ≠ n := by simpa [Step.asks] using ha
    by_cases hm : m < s.iterators.length
    · rw [step_next hm]
      exact (List.getElem?_set_ne hmn).trans h
    · rw [step_next_none hm]
      exact h

/-! ### Runs -/

lemma run_cons (s : Session) (a : Step) (steps : List Step) :
    s.run (a :: steps) =
      ((s.step a).1 :: ((s.step a).2.run steps).1, ((s.step a).2.run steps).2) := rfl

lemma run_append (s : Session) (earlier later : List Step) :
    (s.run (earlier ++ later)).2 = ((s.run earlier).2.run later).2 := by
  induction earlier generalizing s with
  | nil => rfl
  | cons a earlier ih =>
    rw [List.cons_append, run_cons, run_cons]
    exact ih (s.step a).2

/-- What the iterator of a number hands out in a run. -/
def handed (s : Session) (n : Nat) (steps : List Step) : List (Option Credential) :=
  (steps.zip (s.run steps).1).filterMap fun p => p.1.handedBy n p.2

/-- The iterator of a number has these items left, in the collection that it points at. -/
def HasLeft (n : Nat) (s : Session) (items : List Credential) : Prop :=
  ∃ it collection, s.iterators[n]? = some it ∧ s.memory[it.place]? = some collection ∧
    it.items collection.credentials = items

/-- An iterator that is asked hands out the first of its items. -/
lemma HasLeft.asked {items : List Credential} (h : HasLeft n s items) (ha : a.asks n = true) :
    a.handedBy n (s.step a).1 = some items.head? ∧ HasLeft n (s.step a).2 items.tail := by
  obtain ⟨it, collection, hit, hplace, rfl⟩ := h
  obtain rfl := Step.asks_iff.1 ha
  obtain ⟨hn, rfl⟩ := List.getElem?_eq_some_iff.1 hit
  have hinside := s.inside s.iterators[n] (List.getElem_mem hn)
  obtain ⟨hhanded, hstays, hleft⟩ := CredentialIterator.next_spec hinside hplace
  rw [step_next hn]
  refine ⟨(if_pos ha).trans (congrArg some hhanded), ?_⟩
  refine ⟨(s.iterators[n].next hinside).2, collection, List.getElem?_set_self hn, ?_, hleft⟩
  rw [hstays]
  exact hplace

/-- Whatever else is done, the iterator keeps its items. -/
lemma HasLeft.other {items : List Credential} (h : HasLeft n s items) (ha : a.asks n = false) :
    a.handedBy n (s.step a).1 = none ∧ HasLeft n (s.step a).2 items := by
  obtain ⟨it, collection, hit, hplace, rfl⟩ := h
  refine ⟨Step.handedBy_of_not_asks ha _, it, collection, iterators_step hit ha, ?_, rfl⟩
  obtain ⟨more, hmore⟩ := memory_prefix_step s a
  have hlt : it.place < s.memory.length := (List.getElem?_eq_some_iff.1 hplace).1
  rw [← hmore, List.getElem?_append_left hlt]
  exact hplace

/-- **An iterator hands out its own items in order and then nothing**, whatever is done in between. -/
theorem HasLeft.handed_eq {items : List Credential} (h : HasLeft n s items) (steps : List Step) :
    s.handed n steps = (List.range (steps.countP (·.asks n))).map fun j => items[j]? :=
  handed_of_steps (fun _ => rfl) (fun _ _ _ => rfl) (fun _ _ _ h ha => h.asked ha)
    (fun _ _ _ h ha => h.other ha) h steps

/-- A new iterator has all that matches in the collection of the store. -/
theorem handed_openIterator (s : Session) (c : Criteria) (later : List Step) :
    (s.openIterator c).handed s.iterators.length later =
      (List.range (later.countP (·.asks s.iterators.length))).map fun j =>
        (s.store.select c)[j]? := by
  have hitems : CredentialIterator.items ⟨c, s.current, 0, s.store.size⟩ s.store.credentials =
      s.store.select c := by
    unfold CredentialIterator.items select size
    rw [List.drop_zero, List.take_length]
  have hleft : HasLeft s.iterators.length (s.openIterator c) (s.store.select c) :=
    ⟨_, s.store, List.getElem?_concat_length, s.store_eq, hitems⟩
  exact hleft.handed_eq later

/-! ### The collection -/

lemma credentials_step (h : ∀ ks, a ≠ .replaceAll ks) :
    (s.step a).2.store.credentials = s.store.credentials ++ a.added?.toList := by
  cases a with
  | add k => rw [step, store_update]; rfl
  | replaceAll ks => exact absurd rfl (h ks)
  | resolve c => exact (List.append_nil _).symm
  | next n =>
    by_cases hn : n < s.iterators.length
    · rw [step_next hn]
      exact (List.append_nil _).symm
    · rw [step_next_none hn]
      exact (List.append_nil _).symm

/-- Without a replacement, what is added comes after what was there. -/
theorem credentials_run (h : ∀ ks, .replaceAll ks ∉ steps) :
    (s.run steps).2.store.credentials = s.store.credentials ++ steps.filterMap Step.added? := by
  induction steps generalizing s with
  | nil => exact (List.append_nil _).symm
  | cons a steps ih =>
    have hhead : ∀ ks, a ≠ .replaceAll ks := fun ks hks => h ks (hks ▸ List.mem_cons_self)
    have htail : ∀ ks, .replaceAll ks ∉ steps := fun ks hks => h ks (List.mem_cons_of_mem _ hks)
    rw [run_cons]
    refine (ih htail).trans ?_
    rw [credentials_step hhead, List.append_assoc, List.filterMap_cons]
    cases a.added? <;> rfl

/-! ### The store over time -/

/-- **A store of credentials over time.**  Whatever was done with it before:

* an iterator hands out the credentials that the store holds when it is opened and that satisfy every
  criterion, in their order, and then nothing, whatever is done while it is used;
* criteria that do not concern credentials make no difference to that, and any other criterion that is
  added only leaves credentials out;
* the store holds what was put in it last, and after that all that was added since.  -/
theorem isolated_iterators_no_lost_update (initial : List Credential) (steps : List Step) :
    let s := ((start initial).run steps).2
    let found := fun c : Criteria => s.store.credentials.filter fun k => c.SatisfiedBy k
    (∀ c later, (s.step (.resolve c)).1 = .opened s.iterators.length ∧
      (s.step (.resolve c)).2.handed s.iterators.length later =
        (List.range (later.countP (·.asks s.iterators.length))).map fun j => (found c)[j]?) ∧
    (∀ c, s.store.resolver c = .ok (found c)) ∧
    (∀ c x, x.kind = .keyInfo ∨ x.kind = .role ∨ x.kind = .protocol → found (c.add x) = found c) ∧
    (∀ c x, c.has x.kind = false → (found (c.add x)).Sublist (found c)) ∧
    ((∀ ks, .replaceAll ks ∉ steps) →
      s.store.credentials = initial ++ steps.filterMap Step.added?) ∧
    (∀ earlier ks later, steps = earlier ++ .replaceAll ks :: later →
      (∀ ks', .replaceAll ks' ∉ later) →
      s.store.credentials = ks ++ later.filterMap Step.added?) := by
  intro s found
  have hfound (c : Criteria) : s.store.select c = found c := by
    unfold select
    rw [c.admits_eq]
  refine ⟨fun c later => ⟨rfl, ?_⟩, fun c => ?_, fun c x hx => ?_, fun c x hnew => ?_, fun hnone => ?_, ?_⟩
  · rw [← hfound]
    exact handed_openIterator s c later
  · rw [← hfound]
    rfl
  · rw [← hfound, ← hfound]
    unfold select
    cases x with
    | entityId | keyName | publicKey | usage => simp [Criterion.kind] at hx
    | keyInfo | role | protocol => rfl
  · refine List.monotone_filter_right _ fun k hk => ?_
    exact decide_eq_true ((of_decide_eq_true hk).of_add hnew)
  · exact credentials_run hnone
  · rintro earlier ks later rfl hnone
    have hreplaced : (((start initial).run earlier).2.step (.replaceAll ks)).2.store = ⟨ks⟩ :=
      store_update _ _
    have hrun := credentials_run (s := (((start initial).run earlier).2.step (.replaceAll ks)).2) hnone
    rw [hreplaced] at hrun
    change (((start initial).run (earlier ++ .replaceAll ks :: later)).2).store.credentials = _
    rw [run_append, run_cons]
    exact hrun

end Session

end CredentialStore

/-! ### Two iterators and updates in between -/

namespace StoreSample

open CredentialStore Session

def mine : Credential := { keyNames := .ofList ["mine"] }

def spare : Credential := { keyNames := .ofList ["mine", "spare"] }

def other : Credential := { keyNames := .ofList ["other"] }

/-- What came before the last replacement is gone, what came after it is there, and an iterator is
disturbed neither by updates nor by another iterator. -/
theorem iterator_undisturbed :
    let steps : List Step := [.add other, .replaceAll [mine, other, mine], .resolve {}, .next 0, .add spare]
    let s := ((start []).run steps).2
    s.store.credentials = [mine, other, mine, spare] ∧
      (s.step (.resolve { keyName := some "mine" })).2.handed 1
          [.next 1, .next 0, .replaceAll [], .next 1, .add other, .next 1, .next 0, .next 1] =
        [some mine, some mine, some spare, none] := by
  intro steps s
  obtain ⟨hiterators, -, -, -, -, hreplaced⟩ := isolated_iterators_no_lost_update [] steps
  have hnone : ∀ ks, Step.replaceAll ks ∉ [Step.resolve {}, .next 0, .add spare] := by simp
  have hcredentials : s.store.credentials = [mine, other, mine, spare] :=
    hreplaced [.add other] [mine, other, mine] [.resolve {}, .next 0, .add spare] rfl hnone
  obtain ⟨-, hhanded⟩ := hiterators { keyName := some "mine" }
    [.next 1, .next 0, .replaceAll [], .next 1, .add other, .next 1, .next 0, .next 1]
  refine ⟨hcredentials, hhanded.trans ?_⟩
  decide

end StoreSample

end MetadataTrust
