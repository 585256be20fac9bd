import MetadataTrust.Proofs.Handing
import MetadataTrust.Proofs.Metadata.Index

/-!
# A metadata store over time

Refreshes, resolutions and the steps of iterators may come in any order.  A refresh that fails changes
nothing.  One that succeeds replaces the contents, but an iterator hands out what was there when it was
opened: no step but its own moves it (`step_iterators`), so what it hands out in a run does not depend on
the other steps of the run (`handed_eq`).
-/

namespace MetadataTrust

/-! ### Iterators -/

namespace EntityIterator

variable {t : EntityIndex} {i : Nat}

lemma next_scan (h : i < t.entities.size) :
    (scan t i).next = (some t.entities[i], scan t (i + 1)) := dif_pos h

lemma next_scan_end (h : ¬ i < t.entities.size) : (scan t i).next = (none, scan t i) := dif_neg h

lemma next_fst (it : EntityIterator) : it.next.1 = it.items.head? := by
  cases it with
  | found e => cases e <;> rfl
  | scan t i =>
    unfold items
    rw [List.head?_drop, Array.getElem?_toList]
    by_cases hi : i < t.entities.size
    · rw [next_scan hi, Array.getElem?_eq_getElem hi]
    · rw [next_scan_end hi, Array.getElem?_eq_none (Nat.le_of_not_lt hi)]

lemma next_items (it : EntityIterator) : it.next.2.items = it.items.tail := by
  cases it with
  | found e => cases e <;> rfl
  | scan t i =>
    unfold items
    rw [List.tail_drop]
    by_cases hi : i < t.entities.size
    · rw [next_scan hi]
    · -- past the end the position stays, and nothing is left either way
      rw [next_scan_end hi]
      have hend : t.entities.toList.length ≤ i := by simpa using hi
      simp only [List.drop_eq_nil_of_le hend, List.drop_eq_nil_of_le (Nat.le_succ_of_le hend)]

end EntityIterator

namespace IndexedStore

/-! ### One refresh, one resolution -/

/-- The entities of a store, once it has been refreshed. -/
def listing (s : IndexedStore) : Option (List Entity) := s.contents.map fun t => t.entities.toList

variable {s : IndexedStore} {now : Instant} {batch : List Entity} {err : MetadataError} {n : Nat}

lemma listing_eq (s : IndexedStore) : s.listing = s.toStore.snapshot.map Snapshot.entities := by
  unfold listing toStore
  rw [Option.map_map]
  rfl

lemma refresh_fst (s : IndexedStore) (now : Instant) (batch : List Entity) :
    (s.refresh now batch).1 = (s.toStore.refresh now batch).1 :=
  congrArg Prod.fst (s.refresh_toStore now batch)

theorem refresh_eq_error_iff :
    (s.refresh now batch).1 = .error err ↔
      ∃ before e after, batch = before ++ e :: after ∧
        (∀ x ∈ before, ∃ out, s.toStore.sift now x = .ok out) ∧ s.toStore.sift now e = .error err := by
  rw [refresh_fst, MetadataStore.refresh_eq_error_iff, MetadataStore.filtered_eq_error_iff]
  constructor
  · rintro ⟨e, ⟨before, after, hbatch, hbefore⟩, he⟩
    exact ⟨before, e, after, hbatch, hbefore, he⟩
  · rintro ⟨before, e, after, hbatch, hbefore, he⟩
    exact ⟨e, ⟨before, after, hbatch, hbefore⟩, he⟩

lemma refresh_snd_of_error (h : (s.refresh now batch).1 = .error err) :
    (s.refresh now batch).2 = s := by
  unfold refresh at h ⊢
  split
  · rename_i next hload
    rw [hload] at h
    cases h
  · rfl

theorem listing_refresh_of_ok (h : (s.refresh now batch).1 = .ok n) :
    ∃ outs, List.Forall₂ (fun e out => s.toStore.sift now e = .ok out) batch outs ∧
      (s.refresh now batch).2.listing = some (firstOfEach (outs.filterMap fun kept => kept)) ∧
      n = (firstOfEach (outs.filterMap fun kept => kept)).length := by
  rw [refresh_fst] at h
  obtain ⟨next, hnext, rfl⟩ := MetadataStore.refresh_eq_ok_iff.1 h
  have hstore : (s.refresh now batch).2.toStore = (s.toStore.refresh now batch).2 :=
    congrArg Prod.snd (s.refresh_toStore now batch)
  rw [MetadataStore.refresh_of_ok hnext] at hstore
  obtain ⟨outs, houts, rfl⟩ := MetadataStore.filtered_eq_ok_iff.1 hnext
  refine ⟨outs, Except.mapM_eq_ok_iff.1 houts, ?_, by rw [Snapshot.entities_ofList]⟩
  rw [listing_eq, hstore, Option.map_some, Snapshot.entities_ofList]

theorem refresh_fails_iff :
    (∃ err, (s.refresh now batch).1 = .error err) ↔
      ∃ e ∈ batch, ∃ err, s.toStore.sift now e = .error err := by
  constructor
  · rintro ⟨err, h⟩
    obtain ⟨before, e, after, rfl, -, he⟩ := refresh_eq_error_iff.1 h
    exact ⟨e, List.mem_append_right _ List.mem_cons_self, err, he⟩
  · rintro ⟨e, hmem, err, he⟩
    rcases Except.ok_or_error (s.refresh now batch).1 with ⟨n, hn⟩ | hfails
    · obtain ⟨outs, houts, -⟩ := listing_refresh_of_ok hn
      have hboth := houts.imp fun x out h => And.intro (Exists.intro out h) h
      have hall : ∀ x ∈ batch, ∃ out, s.toStore.sift now x = .ok out :=
        ((List.forall₂_and_left _ _).1 hboth).1
      obtain ⟨out, hout⟩ := hall e hmem
      rw [he] at hout
      cases hout
    · exact hfails

lemma resolve_of_none {c : Criteria} (h : s.listing = none) :
    s.resolve c = .error (.notRefreshed s.id) := by
  have hcontents : s.contents = none := Option.map_eq_none_iff.1 h
  unfold resolve
  rw [hcontents]

lemma resolve_of_some {c : Criteria} {l : List Entity} (h : s.listing = some l) :
    ∃ it, s.resolve c = .ok it ∧ it.items = l.filter c.wants := by
  obtain ⟨t, ht, rfl⟩ := Option.map_eq_some_iff.1 h
  have hresolver := congrFun s.resolver_toStore c
  have hselect : s.toStore.resolver c = .ok (t.entities.toList.filter c.wants) := by
    unfold MetadataStore.resolver toStore
    rw [ht]
    exact congrArg Except.ok (t.snapshot.select_eq_filter c)
  rw [hselect] at hresolver
  obtain ⟨it, hit, hitems⟩ := Except.bind_eq_ok_iff.1 hresolver
  exact ⟨it, hit, Except.pure_eq_ok_iff.1 hitems⟩

/-! ### One step -/

/-- Whether a step asks the iterator of a number. -/
def Step.asks (n : Nat) : Step → Bool
  | .next m => m = n
  | .refresh .. | .resolve _ => false

lemma Step.asks_iff {n : Nat} {a : Step} : a.asks n = true ↔ a = .next n := by
  cases a <;> simp [asks]

/-- The entity, or nothing more, that the iterator of a number hands out in a step. -/
def Step.handedBy (n : Nat) (a : Step) : Answer → Option (Option Entity)
  | .handed e => if a.asks n then some e else none
  | .refreshed _ | .opened _ => none

lemma Step.handedBy_of_not_asks {n : Nat} {a : Step} (h : ¬ a.asks n = true) (answer : Answer) :
    a.handedBy n answer = none := by
  cases answer with
  | handed e => exact if_neg h
  | refreshed _ | opened _ => rfl

namespace Session

variable {s : Session} {a : Step} {steps : List Step} {it : EntityIterator} {n : Nat}

lemma step_settings (s : Session) (a : Step) :
    (s.step a).2.store.id = s.store.id ∧ (s.step a).2.store.filter = s.store.filter := by
  cases a with
  | refresh now batch =>
    simp only [step, refresh]
    split <;> exact ⟨rfl, rfl⟩
  | resolve c =>
    simp only [step]
    split <;> exact ⟨rfl, rfl⟩
  | next m =>
    simp only [step]
    split <;> exact ⟨rfl, rfl⟩

/-- Only steps that ask an iterator move it. -/
lemma step_iterators (h : s.iterators[n]? = some it) (a : Step) :
    (s.step a).2.iterators[n]? = some (if a.asks n then it.next.2 else it) := by
  cases a with
  | refresh now batch => exact h
  | resolve c =>
    simp only [step]
    split
    · have hn : n < s.iterators.length := (List.getElem?_eq_some_iff.1 h).1
      rw [List.getElem?_append_left hn]
      exact h
    · exact h
  | next m =>
    have hn : n < s.iterators.length := (List.getElem?_eq_some_iff.1 h).1
    by_cases hm : m = n
    · subst hm
      simp only [step, h, Step.asks, decide_true, if_true]
      exact List.getElem?_set_self hn
    · simp only [step, Step.asks, hm, decide_false, Bool.false_eq_true, if_false]
      split
      · rw [List.getElem?_set_ne hm]
        exact h
      · exact h

lemma step_next (h : s.iterators[n]? = some it) :
    (s.step (.next n)).1 = .handed it.items.head? := by
  simp only [step, h, EntityIterator.next_fst]

lemma step_contents (s : Session) (a : Step) :
    (s.step a).2.store.contents = none ↔
      s.store.contents = none ∧ ∀ n, (s.step a).1 ≠ .refreshed (.ok n) := by
  cases a with
  | refresh now batch =>
    simp only [step, refresh]
    split <;> simp
  | resolve c =>
    simp only [step]
    split <;> simp
  | next m =>
    simp only [step]
    split <;> simp

/-! ### Runs -/

lemma run_cons (s : Session) (a : Step) (steps : List Step) :
    s.run (a :: steps) =
      ((s.step a).1 :: ((s.step a).2.run steps).1, ((s.step a).2.run steps).2) := rfl

lemma run_settings (s : Session) (steps : List Step) :
    (s.run steps).2.store.id = s.store.id ∧ (s.run steps).2.store.filter = s.store.filter := by
  induction steps generalizing s with
  | nil => exact ⟨rfl, rfl⟩
  | cons a steps ih =>
    obtain ⟨hid, hfilter⟩ := ih (s.step a).2
    exact ⟨hid.trans (s.step_settings a).1, hfilter.trans (s.step_settings a).2⟩

lemma run_contents (s : Session) (steps : List Step) :
    (s.run steps).2.store.contents = none ↔
      s.store.contents = none ∧ ∀ n, .refreshed (.ok n) ∉ (s.run steps).1 := by
  induction steps generalizing s with
  | nil => simp [run]
  | cons a steps ih =>
    rw [run_cons]
    simp only [ih, step_contents, List.mem_cons, not_or, forall_and, and_assoc]
    simp only [Ne, eq_comm]

/-- What the iterator of a number hands out in a run. -/
def handed (s : Session) (n : Nat) (steps : List Step) : List (Option Entity) :=
  (steps.zip (s.run steps).1).filterMap fun p => p.1.handedBy n p.2

/-- The iterator of a number has these entities left. -/
def HasLeft (n : Nat) (s : Session) (items : List Entity) : Prop :=
  ∃ it, s.iterators[n]? = some it ∧ it.items = items

/-- An iterator that is asked hands out the first of its entities. -/
lemma HasLeft.asked {items : List Entity} (h : HasLeft n s items) (ha : a.asks n = true) :
    a.handedBy n (s.step a).1 = some items.head? ∧ HasLeft n (s.step a).2 items.tail := by
  obtain ⟨it, hit, rfl⟩ := h
  obtain rfl := Step.asks_iff.1 ha
  have hnext := step_iterators hit (.next n)
  rw [if_pos ha] at hnext
  refine ⟨?_, it.next.2, hnext, it.next_items⟩
  rw [step_next hit]
  exact if_pos ha

/-- Whatever else is done, the iterator keeps its entities. -/
lemma HasLeft.other {items : List Entity} (h : HasLeft n s items) (ha : a.asks n = false) :
    a.handedBy n (s.step a).1 = none ∧ HasLeft n (s.step a).2 items := by
  obtain ⟨it, hit, rfl⟩ := h
  have hother : ¬ a.asks n = true := by simp [ha]
  have hnext := step_iterators hit a
  rw [if_neg hother] at hnext
  exact ⟨Step.handedBy_of_not_asks hother _, it, hnext, rfl⟩

/-- **An iterator hands out its own entities in order and then nothing**, whatever is done in between. -/
theorem handed_eq (h : s.iterators[n]? = some it) (steps : List Step) :
    s.handed n steps = (List.range (steps.countP (·.asks n))).map fun j => it.items[j]? := by
  have hleft : HasLeft n s it.items := ⟨it, h, rfl⟩
  exact handed_of_steps (fun _ => rfl) (fun _ _ _ => rfl) (fun _ _ _ h ha => h.asked ha)
    (fun _ _ _ h ha => h.other ha) hleft steps

/-! ### The store over time -/

/-- A new store, on which nothing has been opened. -/
def start (id : String) (filter : Option MetadataFilter) : Session :=
  { store := { id := id, filter := filter } }

lemma sift_run (id : String) (filter : Option MetadataFilter) (steps : List Step) :
    ((start id filter).run steps).2.store.toStore.sift = MetadataStore.sift ⟨id, filter, none⟩ := by
  have hfilter : ((start id filter).run steps).2.store.filter = filter := (run_settings _ steps).2
  unfold toStore MetadataStore.sift
  rw [hfilter]

lemma listing_eq_none_iff : s.store.listing = none ↔ s.store.contents = none :=
  Option.map_eq_none_iff

lemma step_resolve_of_none {c : Criteria} (h : s.store.listing = none) :
    s.step (.resolve c) = (.opened (.error (.notRefreshed s.store.id)), s) := by
  simp only [step, resolve_of_none h]

/-- An iterator that is opened hands out the listed entities that are asked for, whatever comes later. -/
lemma step_resolve_of_some {c : Criteria} {l : List Entity} (h : s.store.listing = some l) :
    (s.step (.resolve c)).1 = .opened (.ok s.iterators.length) ∧
    ∀ later, (s.step (.resolve c)).2.handed s.iterators.length later =
      (List.range (later.countP (·.asks s.iterators.length))).map fun j =>
        (l.filter c.wants)[j]? := by
  obtain ⟨it, hit, hitems⟩ := resolve_of_some (c := c) h
  have hstep : s.step (.resolve c) = (.opened (.ok s.iterators.length),
      { s with iterators := s.iterators ++ [it] }) := by
    simp only [step, hit]
  rw [hstep]
  refine ⟨rfl, fun later => ?_⟩
  rw [← hitems]
  refine handed_eq ?_ later
  exact List.getElem?_concat_length

/-- **A metadata store over time.**  Whatever was done with it before:

* a refresh fails exactly if the filter fails on some entity, with the error of the first such one, and
  then changes nothing;
* after one that succeeds the listing is the first of each identifier among what the filter passes on,
  and the answer is its length;
* an iterator hands out, in order, the listed entities that were asked for when it was opened, whatever
  is done while it is used; of an identifier there is at most one;
* until the first refresh that succeeds there is no listing, and every resolution fails. -/
theorem atomic_refreshes_isolated_iterators (id : String) (filter : Option MetadataFilter)
    (steps : List Step) :
    let sift := MetadataStore.sift ⟨id, filter, none⟩
    let answers := ((start id filter).run steps).1
    let s := ((start id filter).run steps).2
    (∀ now batch, (∃ err, (s.step (.refresh now batch)).1 = .refreshed (.error err)) ↔
      ∃ e ∈ batch, ∃ err, sift now e = .error err) ∧
    (∀ now batch err,
      ((s.step (.refresh now batch)).1 = .refreshed (.error err) ↔
        ∃ before e after, batch = before ++ e :: after ∧
          (∀ x ∈ before, ∃ out, sift now x = .ok out) ∧ sift now e = .error err) ∧
      ((s.step (.refresh now batch)).1 = .refreshed (.error err) →
        (s.step (.refresh now batch)).2 = s)) ∧
    (∀ now batch n, (s.step (.refresh now batch)).1 = .refreshed (.ok n) →
      ∃ outs, List.Forall₂ (fun e out => sift now e = .ok out) batch outs ∧
        (s.step (.refresh now batch)).2.store.listing =
          some (firstOfEach (outs.filterMap fun kept => kept)) ∧
        n = (firstOfEach (outs.filterMap fun kept => kept)).length) ∧
    (∀ l, s.store.listing = some l →
      (∀ c, (s.step (.resolve c)).1 = .opened (.ok s.iterators.length) ∧
        ∀ later, (s.step (.resolve c)).2.handed s.iterators.length later =
          (List.range (later.countP (·.asks s.iterators.length))).map fun j =>
            (l.filter c.wants)[j]?) ∧
      ∀ x, (l.filter fun e => e.entityId = x).length ≤ 1) ∧
    (s.store.listing = none ↔ ∀ n, .refreshed (.ok n) ∉ answers) ∧
    (s.store.listing = none →
      ∀ c, s.step (.resolve c) = (.opened (.error (.notRefreshed id)), s)) := by
  intro sift answers s
  have hsift : s.store.toStore.sift = sift := sift_run id filter steps
  have hid : s.store.id = id := (run_settings (start id filter) steps).1
  have hrefresh (now : Instant) (batch : List Entity) :
      s.step (.refresh now batch) = (.refreshed (s.store.refresh now batch).1,
        { s with store := (s.store.refresh now batch).2 }) := rfl
  refine ⟨fun now batch => ?_, fun now batch err => ?_, fun now batch n h => ?_,
    fun l hl => ⟨fun c => ?_, fun x => ?_⟩, ?_, fun hnone c => ?_⟩
  · rw [hrefresh, ← hsift]
    simp only [Answer.refreshed.injEq]
    exact refresh_fails_iff
  · rw [hrefresh, ← hsift]
    simp only [Answer.refreshed.injEq]
    refine ⟨refresh_eq_error_iff, fun h => ?_⟩
    rw [refresh_snd_of_error h]
  · rw [hrefresh] at h ⊢
    rw [← hsift]
    exact listing_refresh_of_ok (Answer.refreshed.inj h)
  · exact step_resolve_of_some hl
  · obtain ⟨t, ht, rfl⟩ := Option.map_eq_some_iff.1 hl
    exact t.snapshot.length_filter_entityId x
  · have hrun := run_contents (start id filter) steps
    rw [listing_eq_none_iff, hrun]
    exact and_iff_right rfl
  · rw [step_resolve_of_none hnone, hid]

end Session

end IndexedStore

/-! ### An iterator that outlives its contents -/

namespace SessionSample

open IndexedStore Session

def morning : Instant := ⟨⟨2026, 3, 2⟩, 9, 30, 0, 0, by decide, by decide⟩

/-- Drops what is marked as old. -/
def dropsOld : MetadataFilter :=
  ⟨"drops_old", fun _ e => if e.id = some "old" then .ok none else .ok (some e)⟩

def first : Entity := { entityId := "https://a.example.org" }

def second : Entity := { entityId := "https://b.example.org" }

/-- A dropped entity, one with the same identifier, another such one, and one with another identifier. -/
def batch : List Entity := [{ first with id := "old" }, first, { first with id := "again" }, second]

/-- The dropped entity takes nobody's place, and a refresh with nothing does not disturb the iterator. -/
theorem iterator_outlives_refresh :
    let s := ((start "md" (some dropsOld)).run [.refresh morning batch]).2
    s.store.listing = some [first, second] ∧
      (s.step (.resolve {})).2.handed 0 [.next 0, .refresh morning [], .next 0, .next 0] =
        [some first, some second, none] := by
  intro s
  have hlisting : s.store.listing = some [first, second] := by decide
  obtain ⟨-, -, -, hlisted, -⟩ :=
    atomic_refreshes_isolated_iterators "md" (some dropsOld) [.refresh morning batch]
  obtain ⟨hopened, -⟩ := hlisted [first, second] hlisting
  obtain ⟨-, hhanded⟩ := hopened {}
  refine ⟨hlisting, (hhanded _).trans ?_⟩
  decide

end SessionSample

end MetadataTrust
