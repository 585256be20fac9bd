import MetadataTrust.Metadata.Chain
import MetadataTrust.Proofs.Metadata.Listing

/-!
# Nested chains

However chains are nested, they ask their leaves from left to right, up to the first one that fails or finds
something (`ResolverTree.answer_eq_inTurn`).  A leaf may change the state when it is asked, so who is asked and
who is not can be told from the state: it is as the last one asked has left it.  The first item, which every
chain on the way takes and puts back, is still handed out first (`ItemIterator.handed_eq`).
-/

namespace MetadataTrust

variable {σ α : Type}

/-! ### Iterators -/

namespace ItemIterator

lemma next_fst (it : ItemIterator α) : it.next.1 = it.items.head? := by
  cases it with
  | cursor c => rcases c with ⟨_ | ⟨item, rest⟩⟩ <;> rfl
  | putBack item rest => rfl

lemma next_items (it : ItemIterator α) : it.next.2.items = it.items.tail := by
  cases it with
  | cursor c => rcases c with ⟨_ | ⟨item, rest⟩⟩ <;> rfl
  | putBack item rest => rfl

lemma peek_fst (it : ItemIterator α) : it.peek.1 = it.items.head? := by
  rw [← next_fst, peek]
  rcases it.next with ⟨_ | item, rest⟩ <;> rfl

/-- Looking at the first item loses nothing. -/
lemma peek_items (it : ItemIterator α) : it.peek.2.items = it.items := by
  have hfst := it.next_fst
  have hitems := it.next_items
  rw [peek]
  rcases hnext : it.next with ⟨_ | item, rest⟩
  · rw [hnext] at hfst hitems
    rw [hitems, List.head?_eq_none_iff.1 hfst.symm]
    rfl
  · rw [hnext] at hfst hitems
    change item :: rest.items = it.items
    rw [hitems]
    exact List.cons_head?_tail hfst.symm

/-- What is handed out after `n` items. -/
def handed (it : ItemIterator α) : Nat → Option α
  | 0 => it.next.1
  | n + 1 => it.next.2.handed n

/-- **The items are handed out in order, and then nothing.** -/
theorem handed_eq (it : ItemIterator α) (n : Nat) : it.handed n = it.items[n]? := by
  induction n generalizing it with
  | zero => rw [handed, next_fst, List.head?_eq_getElem?]
  | succ n ih => rw [handed, ih, next_items, List.getElem?_tail]

end ItemIterator

/-! ### Asking in turn -/

namespace LiveResolver

variable {r : LiveResolver σ α} {rs more : List (LiveResolver σ α)} {c : Criteria} {s s' : σ}
  {out : Except ResolutionError (List α)}

/-- An answer or, if nothing was found, what comes next in the state that was left. -/
def orNext (first : Except ResolutionError (List α) × σ)
    (next : σ → Except ResolutionError (List α) × σ) : Except ResolutionError (List α) × σ :=
  match first with
  | (.ok [], s) => next s
  | out => out

/-- Resolvers are asked one after another until one fails or finds something. -/
def inTurn (c : Criteria) : List (LiveResolver σ α) → σ → Except ResolutionError (List α) × σ
  | [], s => (.ok [], s)
  | r :: more, s => orNext (r.answer c s) (inTurn c more)

section OrNext

variable {first : Except ResolutionError (List α) × σ}
  {next more : σ → Except ResolutionError (List α) × σ}

lemma orNext_of_ne (h : first.1 ≠ .ok []) : orNext first next = first := by
  rcases first with ⟨err | _ | ⟨item, found⟩, s⟩
  · rfl
  · exact absurd rfl h
  · rfl

lemma orNext_nothing : orNext first (fun s => (.ok [], s)) = first := by
  rcases first with ⟨err | _ | ⟨item, found⟩, s⟩ <;> rfl

lemma orNext_assoc : orNext (orNext first next) more = orNext first fun s => orNext (next s) more := by
  rcases first with ⟨err | _ | ⟨item, found⟩, s⟩ <;> rfl

end OrNext

lemma inTurn_cons (r : LiveResolver σ α) (more : List (LiveResolver σ α)) (c : Criteria) (s : σ) :
    inTurn c (r :: more) s = orNext (r.answer c s) (inTurn c more) := rfl

lemma inTurn_singleton (r : LiveResolver σ α) (c : Criteria) (s : σ) : inTurn c [r] s = r.answer c s :=
  orNext_nothing

lemma inTurn_append (c : Criteria) (rs more : List (LiveResolver σ α)) (s : σ) :
    inTurn c (rs ++ more) s = orNext (inTurn c rs s) (inTurn c more) := by
  induction rs generalizing s with
  | nil => rfl
  | cons r rs ih =>
    rw [List.cons_append, inTurn_cons, inTurn_cons, orNext_assoc]
    exact congrArg (orNext _) (funext ih)

/-- A chain looks at the first item of what a member has found, and goes on if there is none. -/
lemma answer_chain_cons (r : LiveResolver σ α) (more : List (LiveResolver σ α)) (c : Criteria) (s : σ) :
    (chain (r :: more)).answer c s = orNext (r.answer c s) ((chain more).answer c) := by
  rw [answer, answer, chain]
  rcases r c s with ⟨err | found, s'⟩
  · rfl
  · have hfst := found.peek_fst
    have hitems := found.peek_items
    rcases hfound : found.items with _ | ⟨item, rest⟩
    · have hnone : ¬ found.peek.1.isSome = true := by rw [hfst, hfound]; exact Bool.false_ne_true
      simp only [if_neg hnone, Except.map, hfound]
      rfl
    · have hsome : found.peek.1.isSome = true := by rw [hfst, hfound]; rfl
      simp only [if_pos hsome, Except.map, hitems, hfound]
      rfl

/-- A chain finds what its members asked in turn find. -/
lemma answer_chain (rs : List (LiveResolver σ α)) (c : Criteria) (s : σ) :
    (chain rs).answer c s = inTurn c rs s := by
  induction rs generalizing s with
  | nil => rfl
  | cons r more ih =>
    rw [answer_chain_cons, inTurn_cons]
    exact congrArg (orNext _) (funext ih)

/-! ### Who is asked last -/

/-- Each of the resolvers is asked and finds nothing; the state goes from one to the next. -/
inductive PassesOver (c : Criteria) : List (LiveResolver σ α) → σ → σ → Prop
  | nil {s : σ} : PassesOver c [] s s
  | cons {r : LiveResolver σ α} {rs : List (LiveResolver σ α)} {s s₁ s' : σ}
    (hr : r.answer c s = (.ok [], s₁)) (hrs : PassesOver c rs s₁ s') : PassesOver c (r :: rs) s s'

lemma PassesOver.inTurn_append (h : PassesOver c rs s s') :
    inTurn c (rs ++ more) s = inTurn c more s' := by
  induction h with
  | nil => rfl
  | cons hr _ ih =>
    rw [List.cons_append, inTurn_cons, hr]
    exact ih

lemma PassesOver.inTurn_eq (h : PassesOver c rs s s') : inTurn c rs s = (.ok [], s') := by
  rw [← List.append_nil rs, h.inTurn_append, inTurn]

/-- Who fails or finds something is asked last, whatever comes after. -/
lemma PassesOver.inTurn_last (h : PassesOver c rs s s') (hr : (r.answer c s').1 ≠ .ok []) :
    inTurn c (rs ++ r :: more) s = r.answer c s' := by
  rw [h.inTurn_append]
  exact orNext_of_ne hr

/-- All resolvers find nothing, or one of them is asked last. -/
lemma passesOver_or_last (c : Criteria) (rs : List (LiveResolver σ α)) (s : σ) :
    (∃ s', PassesOver c rs s s') ∨ ∃ before r after s₁, rs = before ++ r :: after ∧
      PassesOver c before s s₁ ∧ (r.answer c s₁).1 ≠ .ok [] := by
  induction rs generalizing s with
  | nil => exact .inl ⟨s, .nil⟩
  | cons r rs ih =>
    rcases hr : r.answer c s with ⟨out, s₁⟩
    by_cases hout : out = .ok []
    · subst hout
      obtain ⟨s', hrs⟩ | ⟨before, q, after, s₂, rfl, hbefore, hq⟩ := ih s₁
      · exact .inl ⟨s', .cons hr hrs⟩
      · exact .inr ⟨r :: before, q, after, s₂, rfl, .cons hr hbefore, hq⟩
    · refine .inr ⟨[], r, rs, s, rfl, .nil, ?_⟩
      rwa [hr]

/-- **Resolvers asked in turn give what the last one gives that is asked**, and the state that it leaves; if all
find nothing, so do they together. -/
theorem inTurn_eq_iff : inTurn c rs s = (out, s') ↔
    PassesOver c rs s s' ∧ out = .ok [] ∨
      ∃ before r after s₁, rs = before ++ r :: after ∧ PassesOver c before s s₁ ∧
        r.answer c s₁ = (out, s') ∧ out ≠ .ok [] := by
  constructor
  · intro h
    obtain ⟨s₁, hpasses⟩ | ⟨before, r, after, s₁, rfl, hbefore, hr⟩ := passesOver_or_last c rs s
    · rw [hpasses.inTurn_eq] at h
      obtain ⟨rfl, rfl⟩ := Prod.mk.inj h
      exact .inl ⟨hpasses, rfl⟩
    · rw [hbefore.inTurn_last hr] at h
      rw [h] at hr
      exact .inr ⟨before, r, after, s₁, rfl, hbefore, h, hr⟩
  · rintro (⟨hpasses, rfl⟩ | ⟨before, r, after, s₁, rfl, hbefore, hr, hne⟩)
    · exact hpasses.inTurn_eq
    · have hlast : (r.answer c s₁).1 ≠ .ok [] := by rwa [hr]
      rw [hbefore.inTurn_last hlast, hr]

/-- Where one of the resolvers would fail and asking them in turn does not, one before it has found
something. -/
lemma found_before_failing {before after : List (LiveResolver σ α)} {found : List α}
    (hfails : ∀ s, ∃ err, (r.answer c s).1 = .error err)
    (h : inTurn c (before ++ r :: after) s = (.ok found, s')) :
    ∃ start q rest s₁, before = start ++ q :: rest ∧ PassesOver c start s s₁ ∧
      q.answer c s₁ = (.ok found, s') ∧ found ≠ [] := by
  obtain ⟨s₁, hpasses⟩ | ⟨start, q, rest, s₁, rfl, hstart, hq⟩ := passesOver_or_last c before s
  · obtain ⟨err, herr⟩ := hfails s₁
    rw [hpasses.inTurn_last (by simp [herr])] at h
    rw [h] at herr
    cases herr
  · rw [List.append_assoc, List.cons_append, hstart.inTurn_last hq] at h
    rw [h] at hq
    exact ⟨start, q, rest, s₁, rfl, hstart, h, fun hnothing => hq (congrArg _ hnothing)⟩

end LiveResolver

/-! ### The leaves of a tree -/

namespace ResolverTree

open LiveResolver (PassesOver inTurn)

variable {t t' : ResolverTree σ α} {c : Criteria} {s : σ}

mutual

/-- The leaves of a tree, from left to right. -/
def leaves : ResolverTree σ α → List (LiveResolver σ α)
  | .leaf r => [r]
  | .chain _ members => leavesOfAll members

/-- The leaves of trees, from left to right. -/
def leavesOfAll : List (ResolverTree σ α) → List (LiveResolver σ α)
  | [] => []
  | t :: more => leaves t ++ leavesOfAll more

end

lemma leavesOfAll_eq (members : List (ResolverTree σ α)) : leavesOfAll members = members.flatMap leaves := by
  induction members with
  | nil => rfl
  | cons t more ih => rw [leavesOfAll, ih, List.flatMap_cons]

mutual

/-- **A tree finds what its leaves asked in turn find**, however its chains are nested. -/
theorem answer_eq_inTurn (c : Criteria) : ∀ (t : ResolverTree σ α) (s : σ),
    t.resolver.answer c s = inTurn c t.leaves s
  | .leaf r, s => by
    rw [resolver, leaves, LiveResolver.inTurn_singleton]
  | .chain _ members, s => by
    rw [resolver, leaves, LiveResolver.answer_chain]
    exact inTurn_resolvers c members s

theorem inTurn_resolvers (c : Criteria) : ∀ (members : List (ResolverTree σ α)) (s : σ),
    inTurn c (resolvers members) s = inTurn c (leavesOfAll members) s
  | [], _ => rfl
  | t :: more, s => by
    rw [resolvers, leavesOfAll, LiveResolver.inTurn_append, LiveResolver.inTurn_cons, answer_eq_inTurn c t s]
    exact congrArg (LiveResolver.orNext _) (funext (inTurn_resolvers c more))

end

/-! ### Trees with the same leaves -/

/-- A chain that is a member of another chain, somewhere in the tree, is replaced by its members; so it is
dropped if there are none. -/
inductive Splices : ResolverTree σ α → ResolverTree σ α → Prop
  | here (id inner : String) (before members after : List (ResolverTree σ α)) :
    Splices (.chain id (before ++ .chain inner members :: after))
      (.chain id (before ++ members ++ after))
  | inside (id : String) (before after : List (ResolverTree σ α)) {t t' : ResolverTree σ α}
    (h : Splices t t') : Splices (.chain id (before ++ t :: after)) (.chain id (before ++ t' :: after))

lemma Splices.leaves_eq (h : Splices t t') : t'.leaves = t.leaves := by
  induction h with
  | here id inner before members after =>
    simp only [leaves, leavesOfAll_eq, List.flatMap_append, List.flatMap_cons, List.append_assoc]
  | inside id before after _ ih =>
    simp only [leaves, leavesOfAll_eq, List.flatMap_append, List.flatMap_cons, ih]

lemma leaves_chain_leaves (id : String) (t : ResolverTree σ α) :
    (chain id (t.leaves.map .leaf)).leaves = t.leaves := by
  rw [leaves, leavesOfAll_eq, List.flatMap_map]
  exact List.flatMap_singleton' t.leaves

/-- **Only the leaves and their order count.** -/
theorem answer_congr (h : t'.leaves = t.leaves) : t'.resolver.answer c s = t.resolver.answer c s := by
  rw [answer_eq_inTurn, answer_eq_inTurn, h]

/-- **A tree of chains asks its leaves from left to right, up to the first that fails or finds something.**

* It gives what this leaf gives, its failure as it is or all that it found, and the state that it leaves.  If
  there is no such leaf, it finds nothing.  What was found is handed out from the first item on.
* No leaf after this one is asked: with others in their places, the answer and the state are the same.
* Only the leaves and their order count.  So a chain within a chain can be replaced by its members, and
  dropped if it is empty, anywhere in the tree, and all leaves can be put in one chain.
* If the tree does not fail where one of its leaves does, a leaf before that has found something. -/
theorem leaves_asked_in_turn (t : ResolverTree σ α) (c : Criteria) (s : σ) :
    (∀ out s', t.resolver.answer c s = (out, s') ↔
      PassesOver c t.leaves s s' ∧ out = .ok [] ∨
        ∃ before leaf after s₁, t.leaves = before ++ leaf :: after ∧ PassesOver c before s s₁ ∧
          leaf.answer c s₁ = (out, s') ∧ out ≠ .ok []) ∧
    (∀ it s', t.resolver c s = (.ok it, s') → ∃ found, t.resolver.answer c s = (.ok found, s') ∧
      ∀ n, it.handed n = found[n]?) ∧
    (∀ before leaf after s₁, t.leaves = before ++ leaf :: after → PassesOver c before s s₁ →
      (leaf.answer c s₁).1 ≠ .ok [] →
      ∀ (t' : ResolverTree σ α) after', t'.leaves = before ++ leaf :: after' →
        t'.resolver.answer c s = t.resolver.answer c s) ∧
    (∀ t' : ResolverTree σ α, t'.leaves = t.leaves →
      t'.resolver.answer c s = t.resolver.answer c s) ∧
    (∀ t', Splices t t' → t'.resolver.answer c s = t.resolver.answer c s) ∧
    (∀ id, (chain id (t.leaves.map .leaf)).resolver.answer c s = t.resolver.answer c s) ∧
    ∀ before leaf after, t.leaves = before ++ leaf :: after →
      (∀ s₁, ∃ err, (leaf.answer c s₁).1 = .error err) →
      ∀ found s', t.resolver.answer c s = (.ok found, s') →
        ∃ start finder rest s₁, before = start ++ finder :: rest ∧ PassesOver c start s s₁ ∧
          finder.answer c s₁ = (.ok found, s') ∧ found ≠ [] := by
  refine ⟨fun out s' => ?_, ?_, ?_, fun t' => answer_congr, fun t' h => answer_congr h.leaves_eq,
    fun id => answer_congr (leaves_chain_leaves id t), ?_⟩
  · rw [answer_eq_inTurn, LiveResolver.inTurn_eq_iff]
  · intro it s' h
    refine ⟨it.items, ?_, it.handed_eq⟩
    rw [LiveResolver.answer, h]
    rfl
  · intro before leaf after s₁ hleaves hbefore hlast t' after' hleaves'
    rw [answer_eq_inTurn, answer_eq_inTurn, hleaves, hleaves', hbefore.inTurn_last hlast,
      hbefore.inTurn_last hlast]
  · intro before leaf after hleaves hfails found s' h
    rw [answer_eq_inTurn, hleaves] at h
    exact LiveResolver.found_before_failing hfails h

/-- A leaf that notes its name in the state when it is asked. -/
def noting (name : String) (found : Except ResolutionError (List α)) : LiveResolver (List String) α :=
  fun c s => LiveResolver.still (fun _ => found) c (s ++ [name])

/-- The first leaf is asked in vain, the second one has all that is found, and the third one is not asked. -/
example : (chain "all" [.chain "near" [.leaf (noting "a" (.ok [])), .chain "none" []],
      .chain "far" [.leaf (noting "b" (.ok [7, 8])), .leaf (noting "c" (.error (.unavailable "offline")))]]
    ).resolver.answer {} [] = (.ok [7, 8], ["a", "b"]) := by
  decide

end ResolverTree

/-! ### Sources of metadata -/

namespace MetadataSource

open LiveResolver (inTurn still)

lemma inTurn_still (c : Criteria) (rs : List (Resolver α)) (s : σ) :
    inTurn c (rs.map still) s = (Resolver.firstNonEmpty rs c, s) := by
  induction rs with
  | nil => rfl
  | cons r rs ih =>
    rw [List.map_cons, Resolver.firstNonEmpty_cons, LiveResolver.inTurn_cons, LiveResolver.answer, still]
    rcases r c with err | _ | ⟨item, found⟩
    · rfl
    · exact ih
    · rfl

mutual

lemma leaves_tree : ∀ t : MetadataSource,
    (t.tree : ResolverTree σ Entity).leaves = t.stores.map fun s => still s.resolver
  | .store s => rfl
  | .chain _ members => by
    rw [tree, ResolverTree.leaves, stores]
    exact leavesOfAll_trees members

lemma leavesOfAll_trees : ∀ members : List MetadataSource,
    ResolverTree.leavesOfAll (trees members : List (ResolverTree σ Entity)) =
      (storesOfAll members).map fun s => still s.resolver
  | [] => rfl
  | t :: more => by
    rw [trees, ResolverTree.leavesOfAll, storesOfAll, List.map_append, leaves_tree t,
      leavesOfAll_trees more]

end

/-- **The chains of a source at work find what the source resolves to**, and leave the state alone. -/
theorem answer_tree (t : MetadataSource) (c : Criteria) (s : σ) :
    t.tree.resolver.answer c s = (t.resolver c, s) := by
  have hleaves : (t.tree : ResolverTree σ Entity).leaves =
      (t.stores.map MetadataStore.resolver).map still := by
    rw [leaves_tree, List.map_map]
    rfl
  rw [ResolverTree.answer_eq_inTurn, hleaves, inTurn_still, ← resolver_eq_scan]

end MetadataSource

end MetadataTrust
