import MetadataTrust.Proofs.Filter.Chain
import MetadataTrust.Proofs.Metadata.Index

/-!
# Chains one after another, and chains that abort

An entity goes from filter to filter as long as they pass it on (`FilterChain.PassesTo`).  So two chains
one after another do what their filters do in one chain.  Whether a chain aborts makes no difference to
the way of an entity; it only decides what is told at its end.  Where the chain that aborts tells the
failure of the last filter, the one that does not drops the entity (`FilterChain.run_tolerant`), and a
refresh goes on with the next one.
-/

namespace MetadataTrust

/-- The entity that is passed on, if there is one. -/
def FilterResult.passed? : FilterResult → Option Entity
  | .ok out => out
  | .error _ => none

namespace FilterChain

variable {abort : Bool} {now : Instant} {fs : List MetadataFilter} {e g : Entity}
  {err : MetadataError}

/-! ### The way of an entity -/

/-- Each of the filters passes on what it gets of `e` from those before it; what the last one passes on
is `g`. -/
inductive PassesTo (now : Instant) : List MetadataFilter → Entity → Entity → Prop
  | nil {e : Entity} : PassesTo now [] e e
  | cons {f : MetadataFilter} {fs : List MetadataFilter} {e m g : Entity}
    (hf : f.apply now e = .ok (some m)) (hfs : PassesTo now fs m g) : PassesTo now (f :: fs) e g

lemma run_of_passesTo (h : PassesTo now fs e g) : run abort now fs e = .ok (some g) := by
  induction h with
  | nil => rfl
  | cons hf _ ih => rw [run_cons_of_ok hf, ih]

/-- **A chain passes an entity on exactly if all its filters do**, whether it aborts or not. -/
theorem run_eq_ok_some_iff : run abort now fs e = .ok (some g) ↔ PassesTo now fs e g := by
  refine ⟨fun h => ?_, run_of_passesTo⟩
  induction fs generalizing e with
  | nil =>
    obtain rfl : e = g := by simpa using h
    exact .nil
  | cons f fs ih =>
    obtain ⟨m, hm, hrest⟩ := run_cons_eq_ok_some_iff.1 h
    exact .cons hm (ih hrest)

/-- **A chain that aborts fails exactly with the error of the first filter that does not pass the entity
on.** -/
theorem run_abort_eq_error_iff :
    run true now fs e = .error err ↔ ∃ before f after g, fs = before ++ f :: after ∧
      PassesTo now before e g ∧ f.apply now g = .error err := by
  rw [run_eq_error_iff, and_iff_right rfl]
  simp only [run_eq_ok_some_iff]

/-! ### With and without abort -/

/-- **A chain that does not abort drops the entities for which one that aborts fails**, and does the same
with all others. -/
theorem run_tolerant (now : Instant) (fs : List MetadataFilter) (e : Entity) :
    run false now fs e =
      match run true now fs e with
      | .error _ => .ok none
      | out => out := by
  induction fs generalizing e with
  | nil => rfl
  | cons f fs ih =>
    cases hf : f.apply now e with
    | error err => simp [run, hf]
    | ok out =>
      cases out with
      | none => simp [run, hf]
      | some m => rw [run_cons_of_ok hf, run_cons_of_ok hf, ih]

lemma run_tolerant_eq_passed (now : Instant) (fs : List MetadataFilter) (e : Entity) :
    run false now fs e = .ok (FilterResult.passed? (run true now fs e)) := by
  rw [run_tolerant]
  cases run true now fs e <;> rfl

/-! ### Refreshes -/

/-- What a store with a chain that does not abort makes of a batch. -/
theorem filtered_tolerant (id : String) (old : Option Snapshot) (now : Instant)
    (fs : List MetadataFilter) (batch : List Entity) :
    MetadataStore.filtered ⟨id, some (toFilter ⟨fs, false⟩), old⟩ now batch =
      .ok (.ofList (batch.filterMap fun e => FilterResult.passed? (run true now fs e))) := by
  have hbatch : batch.mapM (MetadataStore.sift ⟨id, some (toFilter ⟨fs, false⟩), old⟩ now) =
      .ok (batch.map fun e => FilterResult.passed? (run true now fs e)) :=
    Except.mapM_eq_ok_map fun e _ => run_tolerant_eq_passed now fs e
  refine MetadataStore.filtered_eq_ok_iff.2 ⟨_, hbatch, ?_⟩
  rw [List.filterMap_map]
  rfl

/-- **Chains compose, and whether they abort only decides how failures are told.**

* The filters of two chains in one chain do what the second chain does with that which the first one
  passes on; what the first one does not pass on never comes to the second.
* With abort a chain fails exactly with the error of the first filter that does not pass the entity on.
  Without, it drops the entity then and does the same otherwise, so it never fails.
* A refresh through a chain that does not abort succeeds.  It puts in the store what the chain with
  abort passes on, entity by entity, the first of each identifier. -/
theorem append_exact_abort_only_tells (xs ys : List MetadataFilter) (abort : Bool) (now : Instant)
    (e : Entity) :
    ((⟨xs ++ ys, abort⟩ : FilterChain).apply now e =
      match (⟨xs, abort⟩ : FilterChain).apply now e with
      | .ok (some m) => (⟨ys, abort⟩ : FilterChain).apply now m
      | out => out) ∧
    (∀ err, (⟨xs, true⟩ : FilterChain).apply now e = .error err ↔
      ∃ before f after g, xs = before ++ f :: after ∧ PassesTo now before e g ∧
        f.apply now g = .error err) ∧
    ((⟨xs, false⟩ : FilterChain).apply now e =
      match (⟨xs, true⟩ : FilterChain).apply now e with
      | .error _ => .ok none
      | out => out) ∧
    (∃ out, (⟨xs, false⟩ : FilterChain).apply now e = .ok out) ∧
    ∀ (id : String) (old : Option Snapshot) (batch : List Entity), ∃ next : Snapshot,
      MetadataStore.refresh ⟨id, some (toFilter ⟨xs, false⟩), old⟩ now batch =
        (.ok next.entities.length, ⟨id, some (toFilter ⟨xs, false⟩), some next⟩) ∧
      next.entities = firstOfEach (batch.filterMap fun e =>
        FilterResult.passed? ((⟨xs, true⟩ : FilterChain).apply now e)) := by
  refine ⟨run_append, fun err => run_abort_eq_error_iff, run_tolerant now xs e,
    ⟨_, run_tolerant_eq_passed now xs e⟩, fun id old batch => ?_⟩
  refine ⟨_, MetadataStore.refresh_of_ok (filtered_tolerant id old now xs batch), ?_⟩
  exact Snapshot.entities_ofList _

end FilterChain

end MetadataTrust
