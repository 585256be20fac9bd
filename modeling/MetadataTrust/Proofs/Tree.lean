import Mathlib.Data.List.Perm.Basic
import MetadataTrust.Proofs.Json.Order
import MetadataTrust.Tree

/-!
# Reading the members of a record

A record that was written as an object is read by the names of its members: each declared name gets
the member of that name, whatever the order in which the members stand.
-/

namespace MetadataTrust

/-! ### Looking up members -/

section Lookup

variable {α β : Type} {members members' : List (String × α)} {name : String}

lemma lookup_eq_none (h : name ∉ members.map Prod.fst) : members.lookup name = none := by
  induction members with
  | nil => rfl
  | cons m members ih =>
    obtain ⟨k, a⟩ := m
    rw [List.map_cons, List.mem_cons, not_or] at h
    rw [List.lookup_cons, beq_false_of_ne h.1, ih h.2]

lemma lookup_map (g : α → β) :
    (members.map fun m => (m.1, g m.2)).lookup name = (members.lookup name).map g := by
  induction members with
  | nil => rfl
  | cons m members ih =>
    obtain ⟨k, a⟩ := m
    rw [List.map_cons, List.lookup_cons, List.lookup_cons]
    cases name == k with
    | true => rfl
    | false => exact ih

/-- Members with different names are found in any order. -/
lemma lookup_eq_of_perm (hperm : members.Perm members') (hnames : (members.map Prod.fst).Nodup) :
    members.lookup name = members'.lookup name := by
  induction hperm with
  | nil => rfl
  | cons m hperm ih =>
    obtain ⟨k, a⟩ := m
    rw [List.lookup_cons, List.lookup_cons, ih (List.nodup_cons.1 hnames).2]
  | swap m n members =>
    obtain ⟨k, a⟩ := m
    obtain ⟨l, b⟩ := n
    have hne : l ≠ k := by
      simp only [List.map_cons, List.nodup_cons, List.mem_cons, not_or] at hnames
      exact hnames.1.1
    simp only [List.lookup_cons]
    by_cases hk : name = k
    · have hl : (name == l) = false := beq_false_of_ne (hk ▸ Ne.symm hne)
      rw [hl]
    · have hk' : (name == k) = false := beq_false_of_ne hk
      rw [hk']
  | trans hperm hperm' ih ih' =>
    exact (ih hnames).trans (ih' ((hperm.map Prod.fst).nodup_iff.1 hnames))

end Lookup

namespace Tree

open Json

variable {f : Json → Json} {names : List String} {items : List Json}
  {members : List (String × Json)}

lemma ofJsonItems_eq : ofJsonItems items = items.map ofJson := by
  induction items with
  | nil => rfl
  | cons x items ih => rw [ofJsonItems, ih, List.map_cons]

lemma ofJsonMembers_eq :
    ofJsonMembers members = members.map fun m => (.text m.1, ofJson m.2) := by
  induction members with
  | nil => rfl
  | cons m members ih =>
    obtain ⟨k, x⟩ := m
    rw [ofJsonMembers, ih, List.map_cons]

/-! ### Placing members -/

section Place

variable {α : Type} {closed : Bool} {name : MemberName} {k : String} {t u : α}
  {before after more : List (MemberName × α)} {places : List (Option α)} {i : Nat}

/-- Fills a place that is free. -/
def fill? (places : List (Option α)) (i : Nat) (t : α) : Option (List (Option α)) :=
  match places[i]? with
  | some none => some (places.set i (some t))
  | _ => none

/-- What one member does to the places. -/
def put? (names : List String) (closed : Bool) (places : List (Option α)) (m : MemberName × α) :
    Option (List (Option α)) :=
  match position? names m.1 with
  | some i => fill? places i m.2
  | none => if closed ∨ m.1 = .other then none else some places

lemma fill?_free (h : places[i]? = some none) : fill? places i t = some (places.set i (some t)) := by
  unfold fill?
  rw [h]

lemma fill?_taken (h : places[i]? ≠ some none) : fill? places i t = none := by
  unfold fill?
  split
  · exact absurd ‹_› h
  · rfl

lemma put?_at {m : MemberName × α} (h : position? names m.1 = some i) :
    put? names closed places m = fill? places i m.2 := by
  unfold put?
  rw [h]

lemma put?_nowhere {m : MemberName × α} (h : position? names m.1 = none) :
    put? names closed places m = if closed ∨ m.1 = .other then none else some places := by
  unfold put?
  rw [h]

lemma place?_cons (m : MemberName × α) :
    place? names closed (m :: more) places =
      (put? names closed places m).bind (place? names closed more) := by
  obtain ⟨name, t⟩ := m
  rw [place?.eq_def]
  cases hposition : position? names name with
  | none =>
    rw [put?_nowhere hposition]
    cases name <;> cases closed <;> simp [hposition]
  | some i =>
    rw [put?_at hposition]
    by_cases hfree : places[i]? = some none
    · cases name with
      | other => cases hposition
      | text k | position n => simp only [hposition, hfree, fill?_free hfree, Option.bind_some]
    · cases name with
      | other => cases hposition
      | text k | position n => simp only [hposition, fill?_taken hfree, Option.bind_none]

lemma place?_append :
    place? names closed (before ++ after) places =
      (place? names closed before places).bind (place? names closed after) := by
  induction before generalizing places with
  | nil => rfl
  | cons m before ih =>
    rw [List.cons_append, place?_cons, place?_cons, Option.bind_assoc]
    exact Option.bind_congr fun _ _ => ih

/-- A closed record refuses a member that has no place. -/
lemma placed?_refused (hposition : position? names name = none) (h : closed ∨ name = .other) :
    placed? names closed (before ++ (name, t) :: after) = none := by
  unfold placed?
  rw [place?_append]
  refine Option.bind_eq_none_iff.2 fun places _ => ?_
  rw [place?_cons, put?_nowhere hposition, if_pos h, Option.bind_none]

/-- An open record passes over a member that has no place. -/
lemma placed?_passedOver (hposition : position? names name = none) (hname : name ≠ .other) :
    placed? names false (before ++ (name, t) :: after) = placed? names false (before ++ after) := by
  have hopen : ¬ (false = true ∨ name = .other) := by simpa using hname
  unfold placed?
  rw [place?_append, place?_append]
  refine Option.bind_congr fun places _ => ?_
  rw [place?_cons, put?_nowhere hposition, if_neg hopen, Option.bind_some]

lemma fill?_filled {j : Nat} {v : α} (h : places[i]? = some (some u)) :
    fill? (places.set i (some t)) j v = (fill? places j v).map (·.set i (some t)) ∧
      ∀ next, fill? places j v = some next → next[i]? = some (some u) := by
  obtain ⟨hi, -⟩ := List.getElem?_eq_some_iff.1 h
  by_cases hij : i = j
  · subst hij
    have htaken : places[i]? ≠ some none := by simp [h]
    have htaken' : (places.set i (some t))[i]? ≠ some none := by simp [hi]
    rw [fill?_taken htaken, fill?_taken htaken']
    exact ⟨rfl, nofun⟩
  · have hplace : (places.set i (some t))[j]? = places[j]? := List.getElem?_set_ne hij
    by_cases hfree : places[j]? = some none
    · rw [fill?_free hfree, fill?_free (hplace.trans hfree)]
      refine ⟨congrArg some (List.set_comm _ _ hij), fun next hnext => ?_⟩
      obtain rfl := Option.some.inj hnext
      rw [List.getElem?_set_ne (Ne.symm hij), h]
    · rw [fill?_taken hfree, fill?_taken (hplace ▸ hfree)]
      exact ⟨rfl, nofun⟩

lemma put?_filled (m : MemberName × α) (h : places[i]? = some (some u)) :
    put? names closed (places.set i (some t)) m =
      (put? names closed places m).map (·.set i (some t)) ∧
    ∀ next, put? names closed places m = some next → next[i]? = some (some u) := by
  cases hposition : position? names m.1 with
  | some j =>
    rw [put?_at hposition, put?_at hposition]
    exact fill?_filled h
  | none =>
    rw [put?_nowhere hposition, put?_nowhere hposition]
    split_ifs
    · exact ⟨rfl, nofun⟩
    · exact ⟨rfl, fun next hnext => Option.some.inj hnext ▸ h⟩

/-- What a filled place holds has no part in where the other members go. -/
lemma place?_filled (h : places[i]? = some (some u)) :
    place? names closed more (places.set i (some t)) =
      (place? names closed more places).map (·.set i (some t)) := by
  induction more generalizing places with
  | nil => rfl
  | cons m more ih =>
    have hput : put? names closed (places.set i (some t)) m =
        (put? names closed places m).map (·.set i (some t)) := (put?_filled m h).1
    rw [place?_cons, place?_cons, hput, Option.bind_map, Option.map_bind]
    refine Option.bind_congr fun next hnext => ?_
    have hkept : next[i]? = some (some u) := (put?_filled (t := t) m h).2 next hnext
    exact ih hkept

/-- A member that has a place is found there. -/
lemma placed?_member (hposition : position? names name = some i) :
    placed? names closed (before ++ (name, t) :: after) =
      (placed? names closed (before ++ (name, u) :: after)).map (·.set i (some t)) := by
  unfold placed?
  rw [place?_append, place?_append, Option.map_bind]
  refine Option.bind_congr fun places _ => ?_
  rw [Function.comp_apply, place?_cons, place?_cons, put?_at hposition, put?_at hposition]
  -- a place that is taken refuses either member
  by_cases hfree : places[i]? = some none
  · have hi : i < places.length := (List.getElem?_eq_some_iff.1 hfree).1
    rw [fill?_free hfree, fill?_free hfree, Option.bind_some, Option.bind_some,
      ← place?_filled (List.getElem?_set_self hi), List.set_set]
  · rw [fill?_taken hfree, fill?_taken hfree]
    rfl

lemma place?_unknown (h : names.findIdx? (· == k) = none) :
    place? names false ((.text k, t) :: more) places = place? names false more places := by
  have hposition : position? names (.text k) = none := h
  rw [place?_cons, put?_nowhere hposition, if_neg (by simp), Option.bind_some]

lemma place?_free (h : names.findIdx? (· == k) = some i) (hplace : places[i]? = some none) :
    place? names false ((.text k, t) :: more) places =
      place? names false more (places.set i (some t)) := by
  have hposition : position? names (.text k) = some i := h
  rw [place?_cons, put?_at hposition, fill?_free hplace, Option.bind_some]

end Place

/-- Members that are placed fill places that are free and leave the others as they are. -/
lemma place?_eq {α : Type} {members : List (String × α)} {places : List (Option α)}
    (hnodup : names.Nodup) (hmembers : (members.map Prod.fst).Nodup)
    (hlength : places.length = names.length)
    (hfree : ∀ i (hi : i < names.length), names[i] ∈ members.map Prod.fst → places[i]? = some none) :
    place? names false (members.map fun m => (.text m.1, m.2)) places =
      some (List.zipWith (fun n p => (members.lookup n).or p) names places) := by
  induction members generalizing places with
  | nil =>
    have hsame : List.zipWith (fun (_ : String) (p : Option α) => p) names places = places := by
      refine List.ext_getElem (by simp [hlength]) fun i h h' => ?_
      rw [List.getElem_zipWith]
    rw [List.map_nil, place?]
    exact congrArg some hsame.symm
  | cons m members ih =>
    obtain ⟨k, t⟩ := m
    rw [List.map_cons, List.nodup_cons] at hmembers
    rw [List.map_cons]
    cases hfind : names.findIdx? (· == k) with
    | none =>
      -- an unknown name is passed over
      have hunknown : ∀ n ∈ names, (n == k) = false := by
        intro n hn
        simpa using List.findIdx?_eq_none_iff.1 hfind n hn
      have hrest : ∀ i (hi : i < names.length), names[i] ∈ members.map Prod.fst →
          places[i]? = some none :=
        fun i hi hmem => hfree i hi (List.mem_cons_of_mem _ hmem)
      rw [place?_unknown hfind, ih hmembers.2 hlength hrest]
      refine congrArg some (List.ext_getElem (by simp) fun i h h' => ?_)
      have hi : i < names.length := by simp only [List.length_zipWith] at h; omega
      rw [List.getElem_zipWith, List.getElem_zipWith, List.lookup_cons,
        hunknown _ (List.getElem_mem hi)]
    | some i =>
      obtain ⟨hi, hk, -⟩ := List.findIdx?_eq_some_iff_getElem.1 hfind
      have hk : names[i] = k := beq_iff_eq.1 hk
      have hplace : places[i]? = some none := hfree i hi (hk ▸ List.mem_cons_self)
      have hrest : ∀ j (hj : j < names.length), names[j] ∈ members.map Prod.fst →
          (places.set i (some t))[j]? = some none := by
        intro j hj hmem
        have hne : i ≠ j := by
          rintro rfl
          exact hmembers.1 (hk ▸ hmem)
        rw [List.getElem?_set_ne hne]
        exact hfree j hj (List.mem_cons_of_mem _ hmem)
      rw [place?_free hfind hplace, ih hmembers.2 (by simpa using hlength) hrest]
      refine congrArg some (List.ext_getElem (by simp) fun j h h' => ?_)
      have hj : j < names.length := by simp only [List.length_zipWith] at h; omega
      rw [List.getElem_zipWith, List.getElem_zipWith, List.lookup_cons]
      by_cases hij : i = j
      · subst hij
        have hbeq : (names[i] == k) = true := beq_iff_eq.2 hk
        have hnone : members.lookup names[i] = none := lookup_eq_none (hk ▸ hmembers.1)
        rw [List.getElem_set_self, hnone, hbeq]
        rfl
      · have hbeq : (names[j] == k) = false := by
          refine beq_false_of_ne fun heq => hij ?_
          exact (List.Nodup.getElem_inj_iff hnodup).1 (hk.trans heq.symm)
        rw [List.getElem_set_ne hij, hbeq]

lemma placed?_eq {α : Type} {members : List (String × α)} (hnodup : names.Nodup)
    (hmembers : (members.map Prod.fst).Nodup) :
    placed? names false (members.map fun m => (.text m.1, m.2)) =
      some (names.map fun n => members.lookup n) := by
  unfold placed?
  rw [place?_eq hnodup hmembers (List.length_map _)]
  · refine congrArg some (List.ext_getElem (by simp) fun i h h' => ?_)
    rw [List.getElem_zipWith, List.getElem_map, List.getElem_map, Option.or_none]
  · intro i hi _
    rw [List.getElem?_map, List.getElem?_eq_getElem hi]
    rfl

/-! ### Reading what was written -/

/-- **A record gives its members under their names**, in whatever order they were put. -/
theorem members?_object (hf : Reordering f) (hnodup : names.Nodup)
    (hsub : (members.map Prod.fst).Sublist names) :
    members? names false (ofJson (f (.object members))) =
      some (names.map fun n => (members.lookup n).map fun x => ofJson (f x)) := by
  obtain ⟨reordered, heq, hperm⟩ := hf.object members
  have hnames : (reordered.map Prod.fst).Nodup :=
    (Reordering.names_perm hperm).nodup_iff.2 (hsub.nodup hnodup)
  have hmap : (ofJsonMembers reordered : List (MemberName × Tree)) =
      (reordered.map fun m => (m.1, ofJson m.2)).map fun m => (.text m.1, m.2) := by
    rw [ofJsonMembers_eq, List.map_map]
    rfl
  have hkeys : ((reordered.map fun m => (m.1, ofJson m.2)).map Prod.fst).Nodup := by
    rw [List.map_map]
    exact hnames
  rw [heq, ofJson, members?, hmap, placed?_eq hnodup hkeys]
  refine congrArg some (List.map_congr_left fun n _ => ?_)
  rw [lookup_map, lookup_eq_of_perm hperm hnames, lookup_map, Option.map_map]
  rfl

lemma variant?_object (hf : Reordering f) (name : String) (x : Json) :
    variant? (ofJson (f (.object [(name, x)]))) = some (name, some (ofJson (f x))) := by
  obtain ⟨reordered, heq, hperm⟩ := hf.object [(name, x)]
  obtain rfl := List.perm_singleton.1 hperm
  rw [heq]
  rfl

@[simp] lemma text?_string (hf : Reordering f) (s : String) :
    text? (ofJson (f (.string s))) = some s := by
  rw [hf.string]
  rfl

lemma listOf?_array {α β : Type} {read : Tree → Option β} {form : α → Json} {g : α → β}
    (hf : Reordering f) (h : ∀ a, read (ofJson (f (form a))) = some (g a)) (as : List α) :
    listOf? read (ofJson (f (.array (as.map form)))) = some (as.map g) := by
  have hitems : items? (ofJson (f (.array (as.map form)))) =
      some (as.map fun a => ofJson (f (form a))) := by
    rw [hf.array, ofJson, ofJsonItems_eq, List.map_map, List.map_map]
    rfl
  have hread : (as.map fun a => ofJson (f (form a))).mapM read = some (as.map g) := by
    clear hitems
    induction as with
    | nil => rfl
    | cons a as ih => simp only [List.map_cons, List.mapM_cons, h, ih, Option.bind_eq_bind,
        Option.bind_some, Option.pure_def]
  unfold listOf?
  rw [hitems]
  exact hread

end Tree

end MetadataTrust
