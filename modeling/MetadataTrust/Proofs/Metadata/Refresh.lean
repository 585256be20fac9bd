import MetadataTrust.Metadata.Store
import MetadataTrust.Proofs.Outcome

/-!
# Runs of refreshes

A refresh either replaces the contents of a store by what its filter makes of a batch, or fails and
leaves the store as it was.  After any run of refreshes the contents are those that the last successful
one gave (`refreshAll_snapshot`).
-/

namespace MetadataTrust

/-! ### Lookups -/

lemma Snapshot.mem_of_mem_select {s : Snapshot} {c : Criteria} {e : Entity} (h : e ∈ s.select c) :
    e ∈ s.entities := by
  unfold select at h
  split at h
  · exact List.mem_of_find?_eq_some (Option.mem_toList.1 h)
  · exact h

lemma Snapshot.mem_of_mem_ofList {l : List Entity} {e : Entity} (h : e ∈ (ofList l).entities) :
    e ∈ l :=
  (mem_keepFirst h).1

namespace MetadataStore

variable {s t : MetadataStore} {now : Instant} {batch : List Entity} {next : Snapshot}
  {err : MetadataError}

lemma mem_of_resolver {c : Criteria} {found : List Entity} {e : Entity}
    (h : s.resolver c = .ok found) (he : e ∈ found) :
    ∃ snapshot, s.snapshot = some snapshot ∧ e ∈ snapshot.entities := by
  unfold resolver at h
  split at h
  · rename_i snapshot hs
    obtain rfl := Except.ok.inj h
    exact ⟨snapshot, hs, Snapshot.mem_of_mem_select he⟩
  · cases h

/-! ### One refresh -/

theorem filtered_eq_ok_iff :
    s.filtered now batch = .ok next ↔
      ∃ outs, batch.mapM (s.sift now) = .ok outs ∧
        next = .ofList (outs.filterMap fun kept => kept) := by
  unfold filtered
  rw [Except.bind_eq_ok_iff]
  simp only [Except.pure_eq_ok_iff, eq_comm (b := next)]

/-- A refresh comes to the entity `e` of a batch: the filter fails on none before it. -/
def ComesTo (s : MetadataStore) (now : Instant) (batch : List Entity) (e : Entity) : Prop :=
  ∃ before after, batch = before ++ e :: after ∧ ∀ x ∈ before, ∃ out, s.sift now x = .ok out

/-- **A batch fails exactly if the filter fails on an entity that a refresh comes to.** -/
theorem filtered_eq_error_iff :
    s.filtered now batch = .error err ↔
      ∃ e, s.ComesTo now batch e ∧ s.sift now e = .error err := by
  unfold filtered
  rw [Except.bind_eq_error_iff, Except.mapM_eq_error_iff]
  constructor
  · rintro (⟨before, e, after, hbatch, hbefore, he⟩ | ⟨_, _, h⟩)
    · exact ⟨e, ⟨before, after, hbatch, hbefore⟩, he⟩
    · exact absurd h Except.pure_ne_error
  · rintro ⟨e, ⟨before, after, hbatch, hbefore⟩, he⟩
    exact .inl ⟨before, e, after, hbatch, hbefore, he⟩

/-- What a batch gives is made by the filter from an entity of the batch. -/
theorem mem_of_filtered {e : Entity} (h : s.filtered now batch = .ok next) (he : e ∈ next.entities) :
    ∃ x ∈ batch, s.sift now x = .ok (some e) := by
  obtain ⟨outs, houts, rfl⟩ := filtered_eq_ok_iff.1 h
  have hmem := Snapshot.mem_of_mem_ofList he
  rw [List.mem_filterMap] at hmem
  obtain ⟨_, hout, rfl⟩ := hmem
  exact Except.mapM_mem_right houts hout

lemma refresh_of_ok (h : s.filtered now batch = .ok next) :
    s.refresh now batch = (.ok next.entities.length, { s with snapshot := some next }) := by
  simp [refresh, h]

lemma refresh_of_error (h : s.filtered now batch = .error err) :
    s.refresh now batch = (.error err, s) := by
  simp [refresh, h]

theorem refresh_eq_ok_iff {n : Nat} :
    (s.refresh now batch).1 = .ok n ↔
      ∃ next, s.filtered now batch = .ok next ∧ next.entities.length = n := by
  cases h : s.filtered now batch <;> simp [refresh, h]

theorem refresh_eq_error_iff :
    (s.refresh now batch).1 = .error err ↔ s.filtered now batch = .error err := by
  cases h : s.filtered now batch <;> simp [refresh, h]

@[simp] lemma refresh_filter : (s.refresh now batch).2.filter = s.filter := by
  cases h : s.filtered now batch <;> simp [refresh, h]

theorem refresh_snd_of_error (h : (s.refresh now batch).1 = .error err) :
    (s.refresh now batch).2 = s := by
  rw [refresh_of_error (refresh_eq_error_iff.1 h)]

/-- A store whose filter gives what that of another one gives makes the same of a batch. -/
theorem filtered_eq_ok_of_imp (himp : ∀ e ∈ batch, ∀ out, s.sift now e = .ok out →
    t.sift now e = .ok out) (h : s.filtered now batch = .ok next) :
    t.filtered now batch = .ok next := by
  obtain ⟨outs, houts, rfl⟩ := filtered_eq_ok_iff.1 h
  exact filtered_eq_ok_iff.2 ⟨outs, Except.mapM_eq_ok_of_imp himp houts, rfl⟩

lemma filtered_congr (h : t.filter = s.filter) : t.filtered now batch = s.filtered now batch := by
  have hsift : t.sift now = s.sift now := by
    funext e
    simp only [sift, h]
  simp only [filtered, hsift]

end MetadataStore

/-! ### Runs -/

/-- A refresh: when it happens, and the entities that are offered. -/
structure RefreshCall where
  now : Instant
  batch : List Entity

namespace MetadataStore

/-- The store after a run of refreshes. -/
def refreshAll (s : MetadataStore) (calls : List RefreshCall) : MetadataStore :=
  calls.foldl (fun t c => (t.refresh c.now c.batch).2) s

variable {s : MetadataStore} {calls : List RefreshCall}

lemma refreshAll_cons (c : RefreshCall) :
    s.refreshAll (c :: calls) = (s.refresh c.now c.batch).2.refreshAll calls := rfl

@[simp] lemma refreshAll_filter : (s.refreshAll calls).filter = s.filter := by
  induction calls generalizing s with
  | nil => rfl
  | cons c calls ih => rw [refreshAll_cons, ih, refresh_filter]

/-- In a run of refreshes `c` is the last one that succeeds. -/
structure LastSuccess (s : MetadataStore) (calls earlier : List RefreshCall) (c : RefreshCall)
    (later : List RefreshCall) : Prop where
  split : calls = earlier ++ c :: later
  succeeds : ∃ n, ((s.refreshAll earlier).refresh c.now c.batch).1 = .ok n
  later_fail : ∀ mid d rest, later = mid ++ d :: rest →
    ∃ err, ((s.refreshAll (earlier ++ c :: mid)).refresh d.now d.batch).1 = .error err

/-- **After any run the contents are those of the last successful refresh**, or those before the run
if none succeeds.  The induction is on the run, over any store with the same filter. -/
theorem refreshAll_snapshot (s : MetadataStore) (calls : List RefreshCall) :
    ((s.refreshAll calls).snapshot = s.snapshot ∧
      ∀ c ∈ calls, ∃ err, s.filtered c.now c.batch = .error err) ∨
    ∃ earlier c later next, calls = earlier ++ c :: later ∧
      s.filtered c.now c.batch = .ok next ∧
      (∀ d ∈ later, ∃ err, s.filtered d.now d.batch = .error err) ∧
      (s.refreshAll calls).snapshot = some next := by
  induction calls generalizing s with
  | nil => exact .inl ⟨rfl, by simp⟩
  | cons c calls ih =>
    have hfilter : ∀ d : RefreshCall, (s.refresh c.now c.batch).2.filtered d.now d.batch =
        s.filtered d.now d.batch := fun _ => filtered_congr refresh_filter
    have ih := ih (s.refresh c.now c.batch).2
    simp only [hfilter] at ih
    rw [refreshAll_cons]
    rcases ih with ⟨hsnap, hfail⟩ | ⟨earlier, d, later, next, rfl, hd, hlater, hsnap⟩
    · cases hc : s.filtered c.now c.batch with
      | error err =>
        refine .inl ⟨by rw [hsnap, refresh_of_error hc], ?_⟩
        exact List.forall_mem_cons.2 ⟨⟨err, hc⟩, hfail⟩
      | ok next =>
        exact .inr ⟨[], c, calls, next, rfl, hc, hfail, by rw [hsnap, refresh_of_ok hc]⟩
    · exact .inr ⟨c :: earlier, d, later, next, rfl, hd, hlater, hsnap⟩

/-- What a store that started empty holds after a run comes from the last successful refresh. -/
theorem mem_refreshAll {snapshot : Snapshot} {e : Entity} (hempty : s.snapshot = none)
    (h : (s.refreshAll calls).snapshot = some snapshot) (he : e ∈ snapshot.entities) :
    ∃ earlier c later, s.LastSuccess calls earlier c later ∧
      ∃ x ∈ c.batch, s.sift c.now x = .ok (some e) := by
  rcases s.refreshAll_snapshot calls with
    ⟨hsnap, -⟩ | ⟨earlier, c, later, next, hsplit, hc, hlater, hsnap⟩
  · rw [hsnap, hempty] at h
    cases h
  · obtain rfl : next = snapshot := Option.some.inj (hsnap.symm.trans h)
    refine ⟨earlier, c, later, ⟨hsplit, ?_, ?_⟩, mem_of_filtered hc he⟩
    · exact ⟨_, refresh_eq_ok_iff.2 ⟨next, by rw [filtered_congr refreshAll_filter, hc], rfl⟩⟩
    · rintro mid d rest rfl
      obtain ⟨err, hd⟩ := hlater d (by simp)
      exact ⟨err, refresh_eq_error_iff.2 (by rw [filtered_congr refreshAll_filter, hd])⟩

end MetadataStore

end MetadataTrust
