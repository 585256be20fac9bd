import MetadataTrust.Filter.Basic
import MetadataTrust.Proofs.Outcome

/-!
# Chains of filters, step by step

What an entity goes through in a chain: `run_append` cuts a chain in two, `run_eq_error_iff` says which
filter a chain fails at, and `run_rel` carries what every filter does over to the whole chain.
-/

namespace MetadataTrust.FilterChain

variable {abort : Bool} {now : Instant} {f : MetadataFilter} {fs gs : List MetadataFilter}
  {e e' : Entity} {err : MetadataError}

@[simp] lemma run_nil : run abort now [] e = .ok (some e) := rfl

lemma run_cons_of_ok (h : f.apply now e = .ok (some e')) :
    run abort now (f :: fs) e = run abort now fs e' := by
  simp [run, h]

theorem run_cons_eq_ok_some_iff :
    run abort now (f :: fs) e = .ok (some e') ↔
      ∃ m, f.apply now e = .ok (some m) ∧ run abort now fs m = .ok (some e') := by
  cases hf : f.apply now e with
  | error err => cases abort <;> simp [run, hf]
  | ok out => cases out <;> simp [run, hf]

/-- **What the first part of a chain passes on goes through the second part.** -/
theorem run_append :
    run abort now (fs ++ gs) e =
      match run abort now fs e with
      | .ok (some m) => run abort now gs m
      | out => out := by
  induction fs generalizing e with
  | nil => rfl
  | cons f fs ih =>
    cases hf : f.apply now e with
    | error err => cases abort <;> simp [run, hf]
    | ok out => cases out <;> simp [run, hf, ih]

theorem run_append_eq_ok_some_iff :
    run abort now (fs ++ gs) e = .ok (some e') ↔
      ∃ m, run abort now fs e = .ok (some m) ∧ run abort now gs m = .ok (some e') := by
  rw [run_append]
  rcases run abort now fs e with err | _ | m <;> simp

/-- **A chain fails exactly if it aborts and some filter fails on what those before it pass on.** -/
theorem run_eq_error_iff :
    run abort now fs e = .error err ↔
      abort = true ∧ ∃ before f after g, fs = before ++ f :: after ∧
        run abort now before e = .ok (some g) ∧ f.apply now g = .error err := by
  induction fs generalizing e with
  | nil => simp
  | cons f fs ih =>
    constructor
    · intro h
      cases hf : f.apply now e with
      | error err' =>
        cases abort with
        | false => simp [run, hf] at h
        | true =>
          obtain rfl : err' = err := by simpa [run, hf] using h
          exact ⟨rfl, [], f, fs, e, rfl, rfl, hf⟩
      | ok out =>
        cases out with
        | none => simp [run, hf] at h
        | some m =>
          rw [run_cons_of_ok hf] at h
          obtain ⟨habort, before, f', after, g, rfl, hbefore, hf'⟩ := ih.1 h
          exact ⟨habort, f :: before, f', after, g, rfl, (run_cons_of_ok hf).trans hbefore, hf'⟩
    · rintro ⟨rfl, before, f', after, g, hfs, hbefore, hf'⟩
      rcases before with _ | ⟨f₀, before⟩
      · obtain ⟨rfl, rfl⟩ := List.cons.inj hfs
        obtain rfl : e = g := by simpa using hbefore
        simp [run, hf']
      · obtain ⟨rfl, rfl⟩ := List.cons.inj hfs
        obtain ⟨m, hm, hrest⟩ := run_cons_eq_ok_some_iff.1 hbefore
        rw [run_cons_of_ok hm]
        exact ih.2 ⟨rfl, before, f', after, g, rfl, hrest, hf'⟩

/-- What every filter does with what it passes on, the chain does, if it can be done several times. -/
theorem run_rel {R : Entity → Entity → Prop} (hrefl : ∀ e, R e e)
    (htrans : ∀ {a b c}, R a b → R b c → R a c)
    (hstep : ∀ f ∈ fs, ∀ e e', f.apply now e = .ok (some e') → R e' e)
    (h : run abort now fs e = .ok (some e')) : R e' e := by
  induction fs generalizing e with
  | nil =>
    obtain rfl : e = e' := by simpa using h
    exact hrefl e
  | cons f fs ih =>
    obtain ⟨m, hm, h⟩ := run_cons_eq_ok_some_iff.1 h
    refine htrans (ih (fun f' hf' => hstep f' (List.mem_cons_of_mem _ hf')) h) ?_
    exact hstep f List.mem_cons_self e m hm

end MetadataTrust.FilterChain
