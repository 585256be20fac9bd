import MetadataTrust.Proofs.Outcome
import MetadataTrust.TrustedNames

/-!
# What scripts trust

A script can succeed without naming anyone: everything that it selects is null or an empty list, or
it selects nothing at all (`ScriptedPolicy.policy_eq_empty_iff`).  Of the entity that a role belongs to
it sees the identifier only (`ScriptedPolicy.policy_role_congr`).

It computes no names exactly if its evaluation fails or its result holds something that is no name
(`ScriptedPolicy.policy_eq_none_iff`).
-/

namespace MetadataTrust

/-- A script's result from which names are collected: a list of texts, of lists of texts and of
nulls. -/
def HoldsNames (j : Json) : Prop :=
  ∃ results, j = .array results ∧
    ∀ x ∈ results, x = .null ∨ (∃ name, x = .string name) ∨
      ∃ names : List String, x = .array (names.map .string)

section Results

variable {j : Json} {results : List Json}

/-! ### Whether names are collected -/

lemma nameOfValue_eq_ok_iff {name : String} : nameOfValue j = .ok name ↔ j = .string name := by
  cases j <;> simp [nameOfValue]

lemma mapM_nameOfValue_eq_ok_iff {items : List Json} {names : List String} :
    items.mapM nameOfValue = .ok names ↔ items = names.map .string := by
  simp only [Except.mapM_eq_ok_iff, nameOfValue_eq_ok_iff]
  rw [← List.forall₂_map_right_iff (R := Eq), List.forall₂_eq_eq_eq]

lemma exists_namesOfValue_iff :
    (∃ names, namesOfValue j = .ok names) ↔
      j = .null ∨ (∃ name, j = .string name) ∨
        ∃ names : List String, j = .array (names.map .string) := by
  cases j with
  | null => simp [namesOfValue]
  | array items => simp [namesOfValue, mapM_nameOfValue_eq_ok_iff]
  | string name => exact iff_of_true ⟨[name], rfl⟩ (.inr (.inl ⟨name, rfl⟩))
  | bool | integer | double | object =>
    refine iff_of_false ?_ (by simp)
    rintro ⟨names, h⟩
    cases h

theorem exists_namesOfResults_iff : (∃ names, namesOfResults j = .ok names) ↔ HoldsNames j := by
  cases j with
  | array results =>
    simp only [HoldsNames, Json.array.injEq, exists_eq_left', ← exists_namesOfValue_iff]
    rw [← Except.exists_mapM_eq_ok_iff]
    constructor
    · rintro ⟨names, h⟩
      obtain ⟨lists, hlists, -⟩ := Except.bind_eq_ok_iff.1 h
      exact ⟨lists, hlists⟩
    · rintro ⟨lists, hlists⟩
      exact ⟨_, Except.bind_eq_ok_iff.2 ⟨lists, hlists, rfl⟩⟩
  | null | bool | integer | double | string | object => simp [namesOfResults, HoldsNames]

lemma namesOfResults_array_eq_ok_iff {N : NameSet} :
    namesOfResults (.array results) = .ok N ↔
      ∃ lists, results.mapM namesOfValue = .ok lists ∧ .ofList lists.flatten = N := by
  unfold namesOfResults
  simp only [Except.bind_eq_ok_iff, Except.pure_eq_ok_iff]

/-! ### Whether there are any -/

lemma namesOfValue_eq_nil_iff : namesOfValue j = .ok [] ↔ j = .null ∨ j = .array [] := by
  have hone (value : Json) :
      (do return [← nameOfValue value] : Except ScriptFault (List String)) ≠ .ok [] := by
    intro h
    obtain ⟨name, -, h⟩ := Except.bind_eq_ok_iff.1 h
    cases h
  cases j with
  | null => simp [namesOfValue]
  | array items =>
    rw [namesOfValue, Except.mapM_eq_ok_iff, List.forall₂_nil_right_iff]
    simp
  | bool | integer | double | string | object => simpa [namesOfValue] using hone _

lemma exists_names_nil_iff :
    (∃ lists, results.mapM namesOfValue = .ok lists ∧ lists.flatten = []) ↔
      ∀ x ∈ results, x = .null ∨ x = .array [] := by
  induction results with
  | nil => exact ⟨by simp, fun _ => ⟨[], rfl, rfl⟩⟩
  | cons x results ih =>
    rw [List.forall_mem_cons, ← ih, ← namesOfValue_eq_nil_iff]
    constructor
    · rintro ⟨lists, hlists, hnil⟩
      obtain ⟨names, more, hx, hmore, rfl⟩ := Except.mapM_cons_eq_ok_iff.1 hlists
      obtain ⟨rfl, hnil⟩ := List.append_eq_nil_iff.1 hnil
      exact ⟨hx, more, hmore, hnil⟩
    · rintro ⟨hx, more, hmore, hnil⟩
      exact ⟨[] :: more, Except.mapM_cons_eq_ok_iff.2 ⟨[], more, hx, hmore, rfl⟩, hnil⟩

lemma NameSet.ofList_eq_empty_iff {names : List String} :
    (SortedSet.ofList names : NameSet) = ∅ ↔ names = [] := by
  constructor
  · intro h
    refine List.eq_nil_iff_forall_not_mem.2 fun name hname => ?_
    have hmem : name ∈ (SortedSet.ofList names : NameSet) := SortedSet.mem_ofList.2 hname
    rw [h] at hmem
    exact SortedSet.not_mem_empty name hmem
  · rintro rfl
    rfl

/-- **Results hold no names exactly if each is null or an empty list.** -/
theorem namesOfResults_eq_empty_iff :
    namesOfResults j = .ok ∅ ↔
      ∃ results, j = .array results ∧ ∀ x ∈ results, x = .null ∨ x = .array [] := by
  cases j with
  | array results =>
    rw [namesOfResults, Except.bind_eq_ok_iff]
    simp only [Except.pure_eq_ok_iff, NameSet.ofList_eq_empty_iff, exists_names_nil_iff]
    simp
  | null | bool | integer | double | string | object => simp [namesOfResults]

end Results

namespace ScriptedPolicy

variable {p : ScriptedPolicy} {o : SignedObject}

theorem policy_eq_empty_iff :
    p.policy o = some ∅ ↔ ∃ results, p.script (p.scope o) = .ok (.array results) ∧
      ∀ x ∈ results, x = .null ∨ x = .array [] := by
  rw [policy, Except.toOption_eq_some_iff, evaluate, Except.mapError_eq_ok_iff,
    Except.bind_eq_ok_iff]
  simp only [namesOfResults_eq_empty_iff]
  constructor
  · rintro ⟨j, hj, results, rfl, hnone⟩
    exact ⟨results, hj, hnone⟩
  · rintro ⟨results, hj, hnone⟩
    exact ⟨_, hj, results, rfl, hnone⟩

/-- **A script computes no names exactly if it fails or its result is not one that names are collected
from.** -/
theorem policy_eq_none_iff :
    p.policy o = none ↔ (∃ fault, p.script (p.scope o) = .error fault) ∨
      ∃ j, p.script (p.scope o) = .ok j ∧ ¬ HoldsNames j := by
  have hsome : (∃ names, p.policy o = some names) ↔
      ∃ j, p.script (p.scope o) = .ok j ∧ HoldsNames j := by
    simp only [policy, evaluate, Except.toOption_eq_some_iff, Except.mapError_eq_ok_iff,
      Except.bind_eq_ok_iff, ← exists_namesOfResults_iff]
    constructor
    · rintro ⟨names, j, hj, hnames⟩
      exact ⟨j, hj, names, hnames⟩
    · rintro ⟨j, hj, names, hnames⟩
      exact ⟨names, j, hj, hnames⟩
  rw [Option.eq_none_iff_forall_ne_some, ← not_exists, hsome]
  rcases Except.ok_or_error (p.script (p.scope o)) with ⟨j, hj⟩ | ⟨fault, hfault⟩
  · simp [hj]
  · simp [hfault]

/-- A script judges a role by the role itself and by the identifier of its owner. -/
theorem policy_role_congr {owner owner' : Entity} {r : Role}
    (h : owner.entityId = owner'.entityId) :
    p.policy (.role owner r) = p.policy (.role owner' r) := by
  simp only [policy, evaluate, scope, SignedObject.form, h]

end ScriptedPolicy

end MetadataTrust
