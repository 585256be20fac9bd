import Mathlib.Data.List.Induction
import MetadataTrust.Metadata.Entity
import MetadataTrust.Proofs.SortedSet

/-!
# Declared namespaces over time

Namespaces of an object become visible, or content, or declared, in any order, and now and then the
object declares those that exclusive canonicalization would lose.  That adds the namespaces of content
that are not visible at the moment and counts the new ones (`Signable.declareNamespaces_of_awaits`).
Nothing takes a declaration back, also not if its namespace becomes visible later, so what is declared
after a run can be read off the run (`Signable.mem_declared_run_iff`).
-/

namespace MetadataTrust

/-! ### Tables -/

namespace NamespaceTable

variable {t : NamespaceTable} {n : Namespace}

lemma mem_undeclared_iff : n ∈ t.undeclared ↔ (n ∈ t.content ∧ n ∉ t.visible) ∧ n ∉ t.declared := by
  simp [undeclared, nonVisible]

lemma mem_declared_declareNonVisible_iff :
    n ∈ t.declareNonVisible.2.declared ↔
      n ∈ t.declared ∨ n ∈ t.content ∧ n ∉ t.visible := by
  have hlost : n ∈ t.undeclared.toList ↔ (n ∈ t.content ∧ n ∉ t.visible) ∧ n ∉ t.declared :=
    mem_undeclared_iff
  simp only [declareNonVisible, SortedSet.mem_insertMany, hlost]
  tauto

/-- The count is the number of the declarations that are new. -/
lemma declareNonVisible_fst (t : NamespaceTable) :
    t.declareNonVisible.1 = (t.declareNonVisible.2.declared.diff t.declared).size := by
  refine congrArg SortedSet.size (SortedSet.ext_mem fun n => ?_)
  rw [SortedSet.mem_diff, mem_declared_declareNonVisible_iff, mem_undeclared_iff]
  tauto

/-- Where nothing would be lost, nothing is declared. -/
lemma declareNonVisible_of_declared (h : ∀ n ∈ t.content, n ∈ t.visible ∨ n ∈ t.declared) :
    t.declareNonVisible = (0, t) := by
  have hnone : t.undeclared.toList = [] := by
    refine List.eq_nil_iff_forall_not_mem.2 fun n hn => ?_
    obtain ⟨⟨hcontent, hvisible⟩, hdeclared⟩ := mem_undeclared_iff.1 hn
    exact (h n hcontent).elim hvisible hdeclared
  simp only [declareNonVisible, SortedSet.size, hnone, List.length_nil]
  rfl

end NamespaceTable

namespace Signable

variable {o : Signable} {n : Namespace}

@[simp] lemma namespaces_withNamespaces (o : Signable) (t : NamespaceTable) :
    (o.withNamespaces t).namespaces = t := by cases o <;> rfl

@[simp] lemma signature?_withNamespaces (o : Signable) (t : NamespaceTable) :
    (o.withNamespaces t).signature? = o.signature? := by cases o <;> rfl

@[simp] lemma serialization?_withNamespaces (o : Signable) (t : NamespaceTable) :
    (o.withNamespaces t).serialization? = o.serialization? := by cases o <;> rfl

@[simp] lemma withNamespaces_withNamespaces (o : Signable) (t u : NamespaceTable) :
    (o.withNamespaces t).withNamespaces u = o.withNamespaces u := by cases o <;> rfl

/-! ### One declaration -/

/-- The object has not been serialized yet, and some reference of its signature goes through exclusive
canonicalization, with comments or without. -/
structure AwaitsExclusive (o : Signable) : Prop where
  unserialized : o.serialization? = none
  exclusive : ∃ s, o.signature? = some s ∧ ∃ r ∈ s.references, ∃ uri ∈ r.transforms,
    uri = exclusiveC14n ∨ uri = exclusiveC14nWithComments

lemma awaitsExclusive_iff :
    o.AwaitsExclusive ↔ (o.serialization?.isNone && o.signature?.any (·.usesExclusive)) = true := by
  rw [Bool.and_eq_true, Option.isNone_iff_eq_none, Option.any_eq_true]
  simp only [Signature.usesExclusive, ContentReference.hasExclusiveTransform, isExclusive,
    List.any_eq_true, Bool.or_eq_true, decide_eq_true_eq]
  exact ⟨fun h => ⟨h.unserialized, h.exclusive⟩, fun h => ⟨h.1, h.2⟩⟩

@[simp] lemma awaitsExclusive_withNamespaces (o : Signable) (t : NamespaceTable) :
    (o.withNamespaces t).AwaitsExclusive ↔ o.AwaitsExclusive := by
  simp only [awaitsExclusive_iff, signature?_withNamespaces, serialization?_withNamespaces]

theorem declareNamespaces_of_awaits (h : o.AwaitsExclusive) :
    o.declareNamespaces =
      (o.namespaces.declareNonVisible.1, o.withNamespaces o.namespaces.declareNonVisible.2) := by
  rw [declareNamespaces, if_pos (awaitsExclusive_iff.1 h)]

theorem declareNamespaces_of_not_awaits (h : ¬ o.AwaitsExclusive) : o.declareNamespaces = (0, o) := by
  rw [declareNamespaces, if_neg (mt awaitsExclusive_iff.2 h)]

/-- Right after a declaration nothing is left to declare. -/
theorem declareNamespaces_again (o : Signable) :
    o.declareNamespaces.2.declareNamespaces = (0, o.declareNamespaces.2) := by
  by_cases h : o.AwaitsExclusive
  · rw [declareNamespaces_of_awaits h, declareNamespaces_of_awaits (by simpa using h)]
    have hcovered : ∀ n ∈ o.namespaces.declareNonVisible.2.content,
        n ∈ o.namespaces.declareNonVisible.2.visible ∨
          n ∈ o.namespaces.declareNonVisible.2.declared := by
      intro n hn
      by_cases hvisible : n ∈ o.namespaces.visible
      · exact .inl hvisible
      · exact .inr (NamespaceTable.mem_declared_declareNonVisible_iff.2 (.inr ⟨hn, hvisible⟩))
    simp [NamespaceTable.declareNonVisible_of_declared hcovered]
  · rw [declareNamespaces_of_not_awaits h, declareNamespaces_of_not_awaits h]

/-! ### Steps -/

/-- What is done with the namespaces of an object. -/
inductive NamespaceStep where
  /-- An element or attribute name uses the namespace. -/
  | visible (n : Namespace)
  /-- Content refers to the namespace. -/
  | content (n : Namespace)
  /-- The namespace is declared. -/
  | declare (n : Namespace)
  /-- Every namespace that would be lost is declared. -/
  | declareNonVisible

/-- The object after a step. -/
def namespaceStep (o : Signable) : NamespaceStep → Signable
  | .visible n => o.withNamespaces (o.namespaces.addVisible n)
  | .content n => o.withNamespaces (o.namespaces.addContent n)
  | .declare n => o.withNamespaces (o.namespaces.declare n)
  | .declareNonVisible => o.declareNamespaces.2

/-- The object after some steps. -/
def namespaceRun (o : Signable) (steps : List NamespaceStep) : Signable :=
  steps.foldl namespaceStep o

section Steps

variable {step : NamespaceStep} {steps : List NamespaceStep}

lemma namespaceRun_concat (o : Signable) (steps : List NamespaceStep) (step : NamespaceStep) :
    o.namespaceRun (steps ++ [step]) = (o.namespaceRun steps).namespaceStep step := by
  simp [namespaceRun]

lemma awaitsExclusive_step : (o.namespaceStep step).AwaitsExclusive ↔ o.AwaitsExclusive := by
  cases step with
  | declareNonVisible =>
    by_cases h : o.AwaitsExclusive
    · simp [namespaceStep, declareNamespaces_of_awaits h]
    · simp [namespaceStep, declareNamespaces_of_not_awaits h]
  | visible n | content n | declare n => simp [namespaceStep]

lemma mem_visible_step :
    n ∈ (o.namespaceStep step).namespaces.visible ↔
      n ∈ o.namespaces.visible ∨ .visible n = step := by
  cases step with
  | visible m => simp [namespaceStep, NamespaceTable.addVisible, or_comm]
  | content m => simp [namespaceStep, NamespaceTable.addContent]
  | declare m => simp [namespaceStep, NamespaceTable.declare]
  | declareNonVisible =>
    by_cases h : o.AwaitsExclusive
    · simp [namespaceStep, declareNamespaces_of_awaits h, NamespaceTable.declareNonVisible]
    · simp [namespaceStep, declareNamespaces_of_not_awaits h]

lemma mem_content_step :
    n ∈ (o.namespaceStep step).namespaces.content ↔
      n ∈ o.namespaces.content ∨ .content n = step := by
  cases step with
  | visible m => simp [namespaceStep, NamespaceTable.addVisible]
  | content m => simp [namespaceStep, NamespaceTable.addContent, or_comm]
  | declare m => simp [namespaceStep, NamespaceTable.declare]
  | declareNonVisible =>
    by_cases h : o.AwaitsExclusive
    · simp [namespaceStep, declareNamespaces_of_awaits h, NamespaceTable.declareNonVisible]
    · simp [namespaceStep, declareNamespaces_of_not_awaits h]

/-- The step lemma: which declarations there are after a step. -/
lemma mem_declared_step :
    n ∈ (o.namespaceStep step).namespaces.declared ↔
      n ∈ o.namespaces.declared ∨ .declare n = step ∨
        .declareNonVisible = step ∧ o.AwaitsExclusive ∧
          n ∈ o.namespaces.content ∧ n ∉ o.namespaces.visible := by
  cases step with
  | visible m => simp [namespaceStep, NamespaceTable.addVisible]
  | content m => simp [namespaceStep, NamespaceTable.addContent]
  | declare m => simp [namespaceStep, NamespaceTable.declare, or_comm]
  | declareNonVisible =>
    by_cases h : o.AwaitsExclusive
    · simp [namespaceStep, declareNamespaces_of_awaits h, h,
        NamespaceTable.mem_declared_declareNonVisible_iff]
    · simp [namespaceStep, declareNamespaces_of_not_awaits h, h]

/-! ### Runs -/

lemma awaitsExclusive_run : (o.namespaceRun steps).AwaitsExclusive ↔ o.AwaitsExclusive := by
  induction steps using List.reverseRecOn with
  | nil => rfl
  | append_singleton steps step ih => rw [namespaceRun_concat, awaitsExclusive_step, ih]

lemma mem_visible_run_iff :
    n ∈ (o.namespaceRun steps).namespaces.visible ↔
      n ∈ o.namespaces.visible ∨ .visible n ∈ steps := by
  induction steps using List.reverseRecOn with
  | nil => simp [namespaceRun]
  | append_singleton steps step ih =>
    rw [namespaceRun_concat, mem_visible_step, ih, List.mem_append, List.mem_singleton, or_assoc]

lemma mem_content_run_iff :
    n ∈ (o.namespaceRun steps).namespaces.content ↔
      n ∈ o.namespaces.content ∨ .content n ∈ steps := by
  induction steps using List.reverseRecOn with
  | nil => simp [namespaceRun]
  | append_singleton steps step ih =>
    rw [namespaceRun_concat, mem_content_step, ih, List.mem_append, List.mem_singleton, or_assoc]

/-- One of the steps declares what would be lost, at a moment when `n` is content and not visible. -/
def LostAtSomeStep (o : Signable) (steps : List NamespaceStep) (n : Namespace) : Prop :=
  ∃ earlier later, steps = earlier ++ .declareNonVisible :: later ∧
    (n ∈ o.namespaces.content ∨ .content n ∈ earlier) ∧
    ¬ (n ∈ o.namespaces.visible ∨ .visible n ∈ earlier)

lemma lostAtSomeStep_concat :
    o.LostAtSomeStep (steps ++ [step]) n ↔ o.LostAtSomeStep steps n ∨
      .declareNonVisible = step ∧ n ∈ (o.namespaceRun steps).namespaces.content ∧
        n ∉ (o.namespaceRun steps).namespaces.visible := by
  rw [mem_content_run_iff, mem_visible_run_iff]
  constructor
  · rintro ⟨earlier, later, hsplit, hlost⟩
    rcases List.eq_nil_or_concat later with rfl | ⟨later, last, rfl⟩
    · obtain ⟨rfl, hstep⟩ := List.append_inj' hsplit rfl
      exact .inr ⟨(List.singleton_inj.1 hstep).symm, hlost⟩
    · rw [List.concat_eq_append, ← List.cons_append, ← List.append_assoc] at hsplit
      obtain ⟨rfl, -⟩ := List.append_inj' hsplit rfl
      exact .inl ⟨earlier, later, rfl, hlost⟩
  · rintro (⟨earlier, later, rfl, hlost⟩ | ⟨rfl, hlost⟩)
    · exact ⟨earlier, later ++ [step], by simp, hlost⟩
    · exact ⟨steps, [], rfl, hlost⟩

/-- **The run lemma: where declarations come from.**  After a run a namespace is declared if it was
before, or was declared by a step, or if what would be lost was declared when it was content and not
visible. -/
theorem mem_declared_run_iff :
    n ∈ (o.namespaceRun steps).namespaces.declared ↔
      n ∈ o.namespaces.declared ∨ .declare n ∈ steps ∨
        o.AwaitsExclusive ∧ o.LostAtSomeStep steps n := by
  induction steps using List.reverseRecOn with
  | nil => simp [namespaceRun, LostAtSomeStep]
  | append_singleton steps step ih =>
    rw [namespaceRun_concat, mem_declared_step, ih, awaitsExclusive_run, lostAtSomeStep_concat,
      List.mem_append, List.mem_singleton]
    tauto

end Steps

/-- **Declarations over time.**  Whatever was done with the namespaces of an object before:

* if it awaits exclusive canonicalization, declaring what would be lost adds to the declarations just the
  namespaces of content that are not visible, counts the new ones and changes nothing else; then every
  namespace of content is visible or declared;
* otherwise it counts none and changes nothing, and so it does when it is done again right after;
* no step takes a declaration back, and every declaration is one from the beginning, one that a step
  made, or one of a namespace that was content and not visible when what would be lost was declared. -/
theorem declarations_exact_monotone (o : Signable) (steps : List NamespaceStep) :
    let before := o.namespaceRun steps
    let count := before.declareNamespaces.1
    let after := before.declareNamespaces.2
    (before.AwaitsExclusive →
      (∀ n, n ∈ after.namespaces.declared ↔ n ∈ before.namespaces.declared ∨
        n ∈ before.namespaces.content ∧ n ∉ before.namespaces.visible) ∧
      count = (after.namespaces.declared.diff before.namespaces.declared).size ∧
      after = before.withNamespaces
        { before.namespaces with declared := after.namespaces.declared } ∧
      ∀ n ∈ after.namespaces.content,
        n ∈ after.namespaces.visible ∨ n ∈ after.namespaces.declared) ∧
    (¬ before.AwaitsExclusive → count = 0 ∧ after = before) ∧
    after.declareNamespaces = (0, after) ∧
    (∀ later, ∀ n ∈ before.namespaces.declared,
      n ∈ (before.namespaceRun later).namespaces.declared) ∧
    ∀ n, n ∈ before.namespaces.declared ↔
      n ∈ o.namespaces.declared ∨ .declare n ∈ steps ∨
        o.AwaitsExclusive ∧ o.LostAtSomeStep steps n := by
  intro before count after
  refine ⟨fun h => ?_, fun h => ?_, before.declareNamespaces_again,
    fun later n hn => mem_declared_run_iff.2 (.inl hn), fun n => mem_declared_run_iff⟩
  · have hdeclare := declareNamespaces_of_awaits h
    have hcount : count = before.namespaces.declareNonVisible.1 := congrArg Prod.fst hdeclare
    have hafter : after = before.withNamespaces before.namespaces.declareNonVisible.2 :=
      congrArg Prod.snd hdeclare
    have htable : after.namespaces = before.namespaces.declareNonVisible.2 := by
      rw [hafter, namespaces_withNamespaces]
    have hmem (n : Namespace) := NamespaceTable.mem_declared_declareNonVisible_iff
      (t := before.namespaces) (n := n)
    rw [htable]
    refine ⟨hmem, hcount.trans before.namespaces.declareNonVisible_fst, hafter, fun n hn => ?_⟩
    by_cases hvisible : n ∈ before.namespaces.visible
    · exact .inl hvisible
    · exact .inr ((hmem n).2 (.inr ⟨hn, hvisible⟩))
  · have hdeclare := declareNamespaces_of_not_awaits h
    exact ⟨congrArg Prod.fst hdeclare, congrArg Prod.snd hdeclare⟩

end Signable

end MetadataTrust
