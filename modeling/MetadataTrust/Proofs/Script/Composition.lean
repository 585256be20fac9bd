import MetadataTrust.Proofs.Script.Lines
import MetadataTrust.Proofs.SortedSet
import MetadataTrust.Proofs.TrustedNames

/-!
# Scripts one below the other

A script of queries selects what its queries select, in order.  So two scripts one below the other select
what both do (`QueryLanguage.selectAll_append`), and they name whom one of them names
(`QueryLanguage.evaluate_policy_append`).  Whom a script names depends on which queries it has, but not on
their order.  None of this depends on the language of the queries, so it holds for both built-in engines
whatever paths and pointers select.
-/

namespace MetadataTrust

namespace QueryLanguage

variable {L : QueryLanguage} {s t : String} {p q : Script} {queries more : List String} {scope : Json}
  {all : List String}

/-! ### Compiling -/

theorem compile_eq_ok_iff :
    L.compile s = .ok p ↔ expressions s ≠ [] ∧ (∀ query ∈ expressions s, L.check query = .ok ()) ∧
      L.evaluate (expressions s) = p := by
  unfold compile
  cases expressions s with
  | nil => simp
  | cons query queries =>
    have hchecks : (query :: queries).forM L.check = .ok () ↔
        ∀ a ∈ query :: queries, L.check a = .ok () := Except.forM_eq_ok_iff
    simp only [Except.bind_eq_ok_iff, Except.pure_eq_ok_iff]
    constructor
    · rintro ⟨_, h, hp⟩
      exact ⟨List.cons_ne_nil query queries, hchecks.1 h, hp⟩
    · rintro ⟨-, h, hp⟩
      exact ⟨(), hchecks.2 h, hp⟩

/-- A script below another one has the queries of both. -/
theorem compile_append (hs : L.compile s = .ok p) (ht : L.compile t = .ok q) :
    L.compile (s ++ "\n" ++ t) = .ok (L.evaluate (expressions s ++ expressions t)) := by
  obtain ⟨hne, hs, -⟩ := compile_eq_ok_iff.1 hs
  obtain ⟨-, ht, -⟩ := compile_eq_ok_iff.1 ht
  rw [compile_eq_ok_iff, expressions_append]
  exact ⟨List.append_ne_nil_of_left_ne_nil hne _, List.forall_mem_append.2 ⟨hs, ht⟩, rfl⟩

lemma compile_eq_of_inserts (h : Relation.ReflTransGen Inserts s t) : L.compile t = L.compile s := by
  unfold compile
  rw [expressions_eq_of_inserts h]

/-- A script compiles with another one that has the same queries, in whatever order and however often. -/
theorem compile_of_same_members (hsame : ∀ query, query ∈ expressions s ↔ query ∈ expressions t)
    (hs : L.compile s = .ok p) : L.compile t = .ok (L.evaluate (expressions t)) := by
  obtain ⟨hne, hs, -⟩ := compile_eq_ok_iff.1 hs
  obtain ⟨query, hquery⟩ := List.exists_mem_of_ne_nil _ hne
  exact compile_eq_ok_iff.2 ⟨List.ne_nil_of_mem ((hsame query).1 hquery),
    fun query hquery => hs query ((hsame query).2 hquery), rfl⟩

/-! ### Evaluating -/

theorem selectAll_append (queries more : List String) (scope : Json) :
    L.selectAll (queries ++ more) scope =
      (do return (← L.selectAll queries scope) ++ (← L.selectAll more scope)) := by
  unfold selectAll
  rw [List.mapM_append]
  cases queries.mapM (L.select · scope) with
  | error fault => rfl
  | ok values =>
    cases more.mapM (L.select · scope) with
    | error fault => rfl
    | ok others => exact congrArg Except.ok List.flatten_append

/-! ### Naming -/

/-- The names in what a query selects. -/
def namesOf (L : QueryLanguage) (scope : Json) (query : String) : Except ScriptFault (List String) := do
  return (← (← L.select query scope).mapM namesOfValue).flatten

lemma namesOf_eq_ok_iff {query : String} :
    L.namesOf scope query = .ok all ↔ ∃ values lists, L.select query scope = .ok values ∧
      values.mapM namesOfValue = .ok lists ∧ lists.flatten = all := by
  unfold namesOf
  simp only [Except.bind_eq_ok_iff, Except.pure_eq_ok_iff, exists_and_left]

/-- All values are selected before the first name is collected, but it comes to the same names as query
by query. -/
lemma exists_selected_names_iff :
    (∃ values lists, queries.mapM (L.select · scope) = .ok values ∧
      values.flatten.mapM namesOfValue = .ok lists ∧ lists.flatten = all) ↔
    ∃ lists, queries.mapM (L.namesOf scope) = .ok lists ∧ lists.flatten = all := by
  induction queries generalizing all with
  | nil =>
    constructor
    · rintro ⟨values, lists, hvalues, hlists, rfl⟩
      obtain rfl := Except.ok.inj hvalues
      obtain rfl := Except.ok.inj hlists
      exact ⟨[], rfl, rfl⟩
    · rintro ⟨lists, hlists, rfl⟩
      obtain rfl := Except.ok.inj hlists
      exact ⟨[], [], rfl, rfl, rfl⟩
  | cons query queries ih =>
    constructor
    · rintro ⟨_, lists, hvalues, hlists, rfl⟩
      obtain ⟨v, vs, hv, hvs, rfl⟩ := Except.mapM_cons_eq_ok_iff.1 hvalues
      rw [List.flatten_cons] at hlists
      obtain ⟨own, rest, hown, hrest, rfl⟩ := Except.mapM_append_eq_ok_iff.1 hlists
      obtain ⟨lists, hlists, hall⟩ := ih.1 ⟨vs, rest, hvs, hrest, rfl⟩
      refine ⟨own.flatten :: lists, ?_, by rw [List.flatten_cons, hall, List.flatten_append]⟩
      exact Except.mapM_cons_eq_ok_iff.2
        ⟨_, lists, namesOf_eq_ok_iff.2 ⟨v, own, hv, hown, rfl⟩, hlists, rfl⟩
    · rintro ⟨_, hlists, rfl⟩
      obtain ⟨_, lists, hfirst, hmore, rfl⟩ := Except.mapM_cons_eq_ok_iff.1 hlists
      obtain ⟨v, own, hv, hown, rfl⟩ := namesOf_eq_ok_iff.1 hfirst
      obtain ⟨vs, rest, hvs, hrest, hall⟩ := ih.2 ⟨lists, hmore, rfl⟩
      refine ⟨v :: vs, own ++ rest, Except.mapM_cons_eq_ok_iff.2 ⟨v, vs, hv, hvs, rfl⟩, ?_, ?_⟩
      · rw [List.flatten_cons]
        exact Except.mapM_append_eq_ok_iff.2 ⟨own, rest, hown, hrest, rfl⟩
      · rw [List.flatten_append, hall, List.flatten_cons]

lemma evaluate_eq_ok_iff {j : Json} :
    L.evaluate queries scope = .ok j ↔
      ∃ values, queries.mapM (L.select · scope) = .ok values ∧ .array values.flatten = j := by
  unfold evaluate selectAll
  cases queries.mapM (L.select · scope) <;> simp [bind, Except.bind, pure, Except.pure]

section Policy

variable {name : String} {custom : Json} {o : SignedObject} {N : NameSet}

/-- **A script names whom its queries name.** -/
theorem evaluate_policy_eq_ok_iff :
    (⟨name, L.evaluate queries, custom⟩ : ScriptedPolicy).evaluate o = .ok N ↔
      ∃ lists, queries.mapM (L.namesOf (.object [("custom", custom), ("context", o.form)])) =
        .ok lists ∧ .ofList lists.flatten = N := by
  unfold ScriptedPolicy.evaluate ScriptedPolicy.scope
  simp only [Except.mapError_eq_ok_iff, Except.bind_eq_ok_iff, evaluate_eq_ok_iff]
  constructor
  · rintro ⟨_, ⟨values, hvalues, rfl⟩, hnames⟩
    obtain ⟨own, hown, rfl⟩ := namesOfResults_array_eq_ok_iff.1 hnames
    obtain ⟨lists, hlists, hall⟩ := exists_selected_names_iff.1 ⟨values, own, hvalues, hown, rfl⟩
    exact ⟨lists, hlists, congrArg _ hall⟩
  · rintro ⟨lists, hlists, rfl⟩
    obtain ⟨values, own, hvalues, hown, hall⟩ := exists_selected_names_iff.2 ⟨lists, hlists, rfl⟩
    exact ⟨_, ⟨values, hvalues, rfl⟩,
      namesOfResults_array_eq_ok_iff.2 ⟨own, hown, congrArg _ hall⟩⟩

/-- **Queries after others name whom these or those name.** -/
theorem evaluate_policy_append :
    (⟨name, L.evaluate (queries ++ more), custom⟩ : ScriptedPolicy).evaluate o = .ok N ↔
      ∃ N₁ N₂, (⟨name, L.evaluate queries, custom⟩ : ScriptedPolicy).evaluate o = .ok N₁ ∧
        (⟨name, L.evaluate more, custom⟩ : ScriptedPolicy).evaluate o = .ok N₂ ∧ N = N₁ ∪ N₂ := by
  simp only [evaluate_policy_eq_ok_iff]
  constructor
  · rintro ⟨_, hlists, rfl⟩
    obtain ⟨own, rest, hown, hrest, rfl⟩ := Except.mapM_append_eq_ok_iff.1 hlists
    exact ⟨_, _, ⟨own, hown, rfl⟩, ⟨rest, hrest, rfl⟩, by rw [List.flatten_append, SortedSet.ofList_append]⟩
  · rintro ⟨_, _, ⟨own, hown, rfl⟩, ⟨rest, hrest, rfl⟩, rfl⟩
    exact ⟨own ++ rest, Except.mapM_append_eq_ok_iff.2 ⟨own, rest, hown, hrest, rfl⟩,
      by rw [List.flatten_append, SortedSet.ofList_append]⟩

/-- The order of queries makes no difference to whom they name, nor does it how often each is there. -/
theorem evaluate_policy_of_same_members (hsame : ∀ query, query ∈ queries ↔ query ∈ more)
    (h : (⟨name, L.evaluate queries, custom⟩ : ScriptedPolicy).evaluate o = .ok N) :
    (⟨name, L.evaluate more, custom⟩ : ScriptedPolicy).evaluate o = .ok N := by
  obtain ⟨lists, hlists, rfl⟩ := evaluate_policy_eq_ok_iff.1 h
  obtain ⟨others, hothers, hmembers⟩ := Except.mapM_eq_ok_of_same_members hsame hlists
  refine evaluate_policy_eq_ok_iff.2 ⟨others, hothers, SortedSet.ext_mem fun x => ?_⟩
  simp only [SortedSet.mem_ofList, List.mem_flatten, hmembers]

end Policy

end QueryLanguage

/-! ### Engines -/

/-- The script names nobody for an object: its evaluation fails, or it selects something that names are
not collected from. -/
def ScriptedPolicy.Fails (p : ScriptedPolicy) (o : SignedObject) : Prop :=
  (∃ fault, p.script (p.scope o) = .error fault) ∨
    ∃ j, p.script (p.scope o) = .ok j ∧ ¬ HoldsNames j

lemma ScriptedPolicy.exists_evaluate_error_iff {p : ScriptedPolicy} {o : SignedObject} :
    (∃ err, p.evaluate o = .error err) ↔ p.Fails o := by
  rw [Fails, ← policy_eq_none_iff, policy]
  cases p.evaluate o <;> simp [Except.toOption]

lemma EngineRegistry.builtInWith_engines (paths : PathSelection) (pointers : PointerSelection) :
    (builtInWith paths pointers).engines =
      [(pathLanguage paths).engine, (pointerLanguage pointers).engine] := by
  have hless : ¬ (pointerLanguage pointers).engine.name < (pathLanguage paths).engine.name := by
    change ¬ "JSONPointer" < "JSONPath"
    decide
  have hne : (pointerLanguage pointers).engine.name ≠ (pathLanguage paths).engine.name := by
    change "JSONPointer" ≠ "JSONPath"
    decide
  change insertEngine _ [_] = _
  rw [insertEngine, if_neg hless, if_neg hne]
  rfl

/-- **Scripts of queries can be put together line by line**, whatever the queries select.  The built-in
engines compile such scripts, for any selections of paths and pointers.

* A script below another one, both of which compile, compiles.  It selects what the first selects and then
  what the second does, and fails if one of them fails.
* It names whom one of them names, and fails exactly if one of them does, in its evaluation or because it
  selects what is no name.
* What does not count of a text may be put in anywhere, and it compiles to the same.
* Scripts with the same lines name the same, in whatever order and however often the lines stand in them. -/
theorem scripts_compose_by_lines :
    (∀ paths pointers, (EngineRegistry.builtInWith paths pointers).engines =
      [(pathLanguage paths).engine, (pointerLanguage pointers).engine]) ∧
    ∀ L : QueryLanguage,
      (∀ s₁ s₂ p₁ p₂, L.engine.compile s₁ = .ok p₁ → L.engine.compile s₂ = .ok p₂ →
        ∃ p, L.engine.compile (s₁ ++ "\n" ++ s₂) = .ok p ∧
          (∃ f₁ f₂ : Json → Except ScriptFault (List Json), ∀ scope,
            p₁ scope = Json.array <$> f₁ scope ∧ p₂ scope = Json.array <$> f₂ scope ∧
            p scope = Json.array <$> do return (← f₁ scope) ++ (← f₂ scope)) ∧
          ∀ (name : String) (custom : Json) (o : SignedObject),
            let policy (q : Script) : ScriptedPolicy := ⟨name, q, custom⟩
            (∀ N, (policy p).evaluate o = .ok N ↔
              ∃ N₁ N₂, (policy p₁).evaluate o = .ok N₁ ∧ (policy p₂).evaluate o = .ok N₂ ∧
                N = N₁ ∪ N₂) ∧
            ((∃ err, (policy p).evaluate o = .error err) ↔
              (policy p₁).Fails o ∨ (policy p₂).Fails o)) ∧
      (∀ s t, Relation.ReflTransGen Inserts s t → L.engine.compile t = L.engine.compile s) ∧
      ∀ s t p, (∀ line, line ∈ Text.lines s.toList ↔ line ∈ Text.lines t.toList) →
        L.engine.compile s = .ok p → ∃ q, L.engine.compile t = .ok q ∧
          ∀ (name : String) (custom : Json) (o : SignedObject) (N : NameSet),
            (⟨name, p, custom⟩ : ScriptedPolicy).evaluate o = .ok N ↔
              (⟨name, q, custom⟩ : ScriptedPolicy).evaluate o = .ok N := by
  refine ⟨EngineRegistry.builtInWith_engines, fun L => ⟨?_, ?_, ?_⟩⟩
  · intro s₁ s₂ p₁ p₂ hp₁ hp₂
    have happend := QueryLanguage.compile_append hp₁ hp₂
    obtain ⟨-, -, rfl⟩ := QueryLanguage.compile_eq_ok_iff.1 hp₁
    obtain ⟨-, -, rfl⟩ := QueryLanguage.compile_eq_ok_iff.1 hp₂
    refine ⟨_, happend, ⟨L.selectAll (expressions s₁), L.selectAll (expressions s₂), fun scope =>
      ⟨rfl, rfl, ?_⟩⟩, ?_⟩
    · unfold QueryLanguage.evaluate
      rw [QueryLanguage.selectAll_append]
    · intro name custom o policy
      rw [← ScriptedPolicy.exists_evaluate_error_iff, ← ScriptedPolicy.exists_evaluate_error_iff]
      exact ⟨fun N => QueryLanguage.evaluate_policy_append,
        Except.exists_error_iff_or fun N => QueryLanguage.evaluate_policy_append⟩
  · intro s t hinserts
    exact QueryLanguage.compile_eq_of_inserts hinserts
  · intro s t p hlines hp
    have hsame := mem_expressions_congr hlines
    have ht := QueryLanguage.compile_of_same_members hsame hp
    obtain ⟨-, -, rfl⟩ := QueryLanguage.compile_eq_ok_iff.1 hp
    refine ⟨_, ht, fun name custom o N => ⟨?_, ?_⟩⟩
    · exact QueryLanguage.evaluate_policy_of_same_members hsame
    · exact QueryLanguage.evaluate_policy_of_same_members fun query => (hsame query).symm

/-! ### Two pointers -/

namespace ScriptSample

/-- Data of the deployment, with a name and a list of names. -/
def custom : Json :=
  .object [("operator", .string "op"), ("partners", .array [.string "idp", .string "op"])]

/-- The signed object, which the scripts do not look at. -/
def object : SignedObject := .entity { entityId := "sp" }

/-- The language of pointers, which point as those of this library do. -/
def pointers : QueryLanguage := pointerLanguage JsonPointer.selectText?

lemma compile_pointer (query : String) (hline : expressions query = [query])
    (hquery : query.toList.head? = some '/') :
    pointers.engine.compile query = .ok (pointers.evaluate [query]) := by
  refine QueryLanguage.compile_eq_ok_iff.2 ⟨?_, ?_, by rw [hline]⟩
  · rw [hline]
    exact List.cons_ne_nil _ _
  · rw [hline, List.forall_mem_singleton]
    exact if_pos hquery

/-- Two pointers on two lines name whom each of them names. -/
theorem operator_and_partners : ∃ p,
    pointers.engine.compile "/custom/operator\n/custom/partners" = .ok p ∧
    (⟨"JSONPointer", p, custom⟩ : ScriptedPolicy).evaluate object = .ok (.ofList ["idp", "op"]) := by
  have hoperator := compile_pointer "/custom/operator" (by decide) (by decide)
  have hpartners := compile_pointer "/custom/partners" (by decide) (by decide)
  obtain ⟨p, hp, -, hnames⟩ := (scripts_compose_by_lines.2 pointers).1 _ _ _ _ hoperator hpartners
  refine ⟨p, hp, ((hnames "JSONPointer" custom object).1 _).2 ?_⟩
  exact ⟨.ofList ["op"], .ofList ["idp", "op"], by rfl, by rfl, by decide⟩

end ScriptSample

end MetadataTrust
