import MetadataTrust.Metadata.Session
import MetadataTrust.Proofs.Metadata.Refresh

/-!
# The table of a store

The table finds what a search through the entities would find, and a refresh that builds it up entity by
entity comes to the same contents as one that filters the whole batch first.  So a store with its table
does what it would do without (`refresh_toStore`, `resolver_toStore`).
-/

namespace MetadataTrust

/-! ### The first entity of each identifier -/

/-- The entities before which no other one has their identifier. -/
def firstOfEach (l : List Entity) : List Entity :=
  l.zipIdx.filterMap fun p =>
    if p.1.entityId ∈ (l.take p.2).map Entity.entityId then none else some p.1

lemma keepFirst_eq (seen : List String) (l : List Entity) :
    keepFirst seen l = l.zipIdx.filterMap fun p =>
      if p.1.entityId ∈ seen ∨ p.1.entityId ∈ (l.take p.2).map Entity.entityId then none
      else some p.1 := by
  induction l generalizing seen with
  | nil => rfl
  | cons a l ih =>
    have hshift : (a :: l).zipIdx = (a, 0) :: l.zipIdx.map fun p => (p.1, p.2 + 1) := by
      rw [List.zipIdx_cons, List.zipIdx_succ]
    rw [hshift, List.filterMap_cons, List.filterMap_map, keepFirst]
    by_cases ha : a.entityId ∈ seen
    · simp only [ha, if_true, true_or]
      rw [ih seen]
      refine List.filterMap_congr fun p _ => ?_
      -- an entity with the identifier of `a` is one with an identifier in `seen`
      have hsame : p.1.entityId = a.entityId → p.1.entityId ∈ seen := fun h => h ▸ ha
      simp only [Function.comp_apply, List.take_succ_cons, List.map_cons, List.mem_cons]
      exact if_congr (by tauto) rfl rfl
    · simp only [ha, if_false, List.take_zero, List.map_nil, List.not_mem_nil, or_self]
      rw [ih (a.entityId :: seen)]
      refine congrArg (a :: ·) (List.filterMap_congr fun p _ => ?_)
      simp only [Function.comp_apply, List.take_succ_cons, List.map_cons, List.mem_cons]
      exact if_congr (by tauto) rfl rfl

lemma keepFirst_congr {seen seen' : List String} (h : ∀ x, x ∈ seen ↔ x ∈ seen') (l : List Entity) :
    keepFirst seen l = keepFirst seen' l := by
  simp only [keepFirst_eq, h]

theorem Snapshot.entities_ofList (l : List Entity) : (ofList l).entities = firstOfEach l := by
  have hkept := keepFirst_eq [] l
  simp only [List.not_mem_nil, false_or] at hkept
  exact hkept

/-! ### Looking up -/

/-- Whether an entity has the identifier that is asked for, if one is. -/
def Criteria.wants (c : Criteria) (e : Entity) : Bool := c.entityId.all fun x => e.entityId = x

namespace Snapshot

variable {s : Snapshot} {x : String} {e : Entity}

lemma filter_entityId (s : Snapshot) (x : String) :
    s.entities.filter (·.entityId = x) = (s.entities.find? (·.entityId = x)).toList := by
  obtain ⟨l, hl⟩ := s
  induction l with
  | nil => rfl
  | cons a l ih =>
    obtain ⟨ha, hl⟩ := List.pairwise_cons.1 hl
    by_cases hx : a.entityId = x
    · have hrest : l.filter (·.entityId = x) = [] := by
        refine List.filter_eq_nil_iff.2 fun b hb => ?_
        have hne := ha b hb
        rw [hx] at hne
        simpa using Ne.symm hne
      simp [hx, hrest]
    · simpa [hx] using ih hl

lemma length_filter_entityId (s : Snapshot) (x : String) :
    (s.entities.filter (·.entityId = x)).length ≤ 1 := by
  rw [s.filter_entityId x]
  cases s.entities.find? (·.entityId = x) <;> simp

lemma filter_entityId_of_mem (s : Snapshot) (he : e ∈ s.entities) :
    s.entities.filter (·.entityId = e.entityId) = [e] := by
  have hmem : e ∈ s.entities.filter (·.entityId = e.entityId) := by simpa using he
  obtain ⟨f, hf⟩ := List.length_eq_one_iff.1
    (Nat.le_antisymm (s.length_filter_entityId _) (List.length_pos_of_mem hmem))
  rw [hf] at hmem ⊢
  rw [List.mem_singleton.1 hmem]

theorem select_eq_filter (s : Snapshot) (c : Criteria) : s.select c = s.entities.filter c.wants := by
  unfold select Criteria.wants
  cases c.entityId with
  | none => simp
  | some x => exact (s.filter_entityId x).symm

end Snapshot

namespace EntityIndex

variable {t : EntityIndex} {x : String} {e : Entity} {sift : Entity → FilterResult}
  {batch : List Entity}

/-- **The table finds the first entity with an identifier.** -/
theorem find?_eq (t : EntityIndex) (x : String) :
    t.find? x = t.snapshot.entities.find? (·.entityId = x) := by
  unfold find? snapshot
  split
  · rename_i i hplace
    have hi := place_lt hplace
    have hid : t.entities[i].entityId = x := by
      simpa [Array.getElem?_eq_getElem hi] using (t.located x i).1 hplace
    refine (List.find?_eq_some_iff_getElem.2 ⟨by simpa using hid, i, by simpa using hi, ?_, ?_⟩).symm
    · exact Array.getElem_toList _
    · -- an earlier entity has another identifier, since the table has one place for each
      intro j hj
      have hj' : j < t.entities.size := Nat.lt_trans hj hi
      have hne : t.entities[j].entityId ≠ x := by
        intro heq
        have hj'' := (t.located x j).2 (by simp [Array.getElem?_eq_getElem hj', heq])
        rw [hplace] at hj''
        exact absurd (Option.some.inj hj'') (Nat.ne_of_gt hj)
      simpa [Array.getElem_toList] using hne
  · rename_i hplace
    refine (List.find?_eq_none.2 fun e he => ?_).symm
    obtain ⟨i, hi, rfl⟩ := List.mem_iff_getElem.1 he
    have hnone : t.places.lookup x ≠ some i := by simp [hplace]
    rw [Ne, t.located x i] at hnone
    simpa [Array.getElem?_eq_getElem (show i < t.entities.size by simpa using hi)] using hnone

lemma places_eq_none_iff (t : EntityIndex) (x : String) :
    t.places.lookup x = none ↔ x ∉ t.entities.toList.map Entity.entityId := by
  rw [Option.eq_none_iff_forall_ne_some, List.mem_iff_getElem?, not_exists]
  refine forall_congr' fun i => not_congr ?_
  rw [t.located x i, List.getElem?_map, Array.getElem?_toList]

/-! ### Building up -/

lemma entities_add (t : EntityIndex) (e : Entity) :
    (t.add e).entities.toList =
      if e.entityId ∈ t.entities.toList.map Entity.entityId then t.entities.toList
      else t.entities.toList ++ [e] := by
  have hnone := t.places_eq_none_iff e.entityId
  unfold add
  split
  · rename_i i hplace
    rw [hplace] at hnone
    rw [if_pos (by simpa using hnone)]
  · rename_i hplace
    rw [if_neg (hnone.1 hplace)]
    exact Array.toList_push

lemma entities_foldl_add (t : EntityIndex) (l : List Entity) :
    (l.foldl add t).entities.toList =
      t.entities.toList ++ keepFirst (t.entities.toList.map Entity.entityId) l := by
  induction l generalizing t with
  | nil => simp [keepFirst]
  | cons e l ih =>
    rw [List.foldl_cons, ih, entities_add, keepFirst]
    split
    · rfl
    · have hseen : ∀ x, x ∈ (t.entities.toList ++ [e]).map Entity.entityId ↔
          x ∈ e.entityId :: t.entities.toList.map Entity.entityId := by
        intro x
        rw [List.map_append, List.mem_append, List.map_singleton, List.mem_singleton, List.mem_cons]
        exact or_comm
      rw [keepFirst_congr hseen, List.append_assoc]
      rfl

/-- A batch is taken in as if the filter went through all of it first.  The induction is on the batch,
over any contents before it. -/
lemma load_eq (t : EntityIndex) :
    load sift batch t =
      (batch.mapM sift).map fun outs => (outs.filterMap fun kept => kept).foldl add t := by
  induction batch generalizing t with
  | nil => rfl
  | cons e batch ih =>
    rw [load, List.mapM_cons]
    cases he : sift e with
    | error err => rfl
    | ok out =>
      cases out with
      | none =>
        change load sift batch t = _
        rw [ih]
        cases batch.mapM sift <;> rfl
      | some kept =>
        change load sift batch (t.add kept) = _
        rw [ih]
        cases batch.mapM sift <;> rfl

end EntityIndex

namespace IndexedStore

variable {s : IndexedStore} {now : Instant} {batch : List Entity}

/-- **Building up the table comes to the filtered batch**, or to its error. -/
theorem load_snapshot (s : MetadataStore) :
    (EntityIndex.load (s.sift now) batch .empty).map EntityIndex.snapshot = s.filtered now batch := by
  have hsnapshot (l : List Entity) : (l.foldl EntityIndex.add .empty).snapshot = .ofList l := by
    have hentities := EntityIndex.entities_foldl_add .empty l
    unfold EntityIndex.snapshot Snapshot.ofList
    simp only [hentities]
    rfl
  rw [EntityIndex.load_eq]
  unfold MetadataStore.filtered
  cases batch.mapM (s.sift now) with
  | error err => rfl
  | ok outs => exact congrArg Except.ok (hsnapshot _)

/-- **A refresh of a store with its table is one of the store without.** -/
theorem refresh_toStore (s : IndexedStore) (now : Instant) (batch : List Entity) :
    ((s.refresh now batch).1, (s.refresh now batch).2.toStore) = s.toStore.refresh now batch := by
  have hload : _ = s.toStore.filtered now batch := load_snapshot s.toStore
  unfold refresh MetadataStore.refresh
  rw [← hload]
  cases EntityIndex.load (s.toStore.sift now) batch .empty with
  | error err => rfl
  | ok next => simp [toStore, EntityIndex.snapshot, Except.map]

/-- **A store with its table resolves what the store without does.** -/
theorem resolver_toStore (s : IndexedStore) : s.resolver = s.toStore.resolver := by
  funext c
  unfold resolver resolve MetadataStore.resolver toStore
  cases s.contents with
  | none => rfl
  | some t =>
    unfold Snapshot.select
    cases c.entityId with
    | none => rfl
    | some x => exact congrArg (fun e => Except.ok e.toList) (t.find?_eq x)

lemma resolver_eq {t : EntityIndex} (h : s.contents = some t) (c : Criteria) :
    s.resolver c = .ok (t.entities.toList.filter c.wants) := by
  rw [s.resolver_toStore, MetadataStore.resolver, toStore, h]
  exact congrArg Except.ok (t.snapshot.select_eq_filter c)

end IndexedStore

end MetadataTrust
