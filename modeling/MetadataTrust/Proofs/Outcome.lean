import Mathlib.Data.List.Forall2

/-!
Outcomes of computations that may fail: when a sequence of them succeeds, and with which error it
fails.  A list of them fails with the error of the first one that does.
-/

namespace Except

variable {α β ε ε' : Type}

instance decEq [DecidableEq ε] [DecidableEq α] : DecidableEq (Except ε α)
  | .ok a, .ok b => decidable_of_iff (a = b) (by simp)
  | .error e, .error e' => decidable_of_iff (e = e') (by simp)
  | .ok _, .error _ => isFalse nofun
  | .error _, .ok _ => isFalse nofun

/-! ### One after another -/

theorem bind_eq_ok_iff {x : Except ε α} {f : α → Except ε β} {b : β} :
    x >>= f = .ok b ↔ ∃ a, x = .ok a ∧ f a = .ok b := by
  cases x <;> simp [bind, Except.bind]

theorem bind_eq_error_iff {x : Except ε α} {f : α → Except ε β} {e : ε} :
    x >>= f = .error e ↔ x = .error e ∨ ∃ a, x = .ok a ∧ f a = .error e := by
  cases x <;> simp [bind, Except.bind]

theorem unit_bind_eq_ok_iff {x : Except ε Unit} {y : Except ε β} {b : β} :
    (x >>= fun _ => y) = .ok b ↔ x = .ok () ∧ y = .ok b := by
  rw [bind_eq_ok_iff]
  exact ⟨fun ⟨_, hx, hy⟩ => ⟨hx, hy⟩, fun ⟨hx, hy⟩ => ⟨(), hx, hy⟩⟩

@[simp] theorem throw_bind {e : ε} {f : α → Except ε β} :
    ((throw e : Except ε α) >>= f) = throw e := rfl

@[simp] theorem ite_throw_eq_ok_iff {c : Prop} [Decidable c] {e : ε} {x : Except ε α} {a : α} :
    (if c then throw e else x) = .ok a ↔ ¬ c ∧ x = .ok a := by
  by_cases hc : c <;> simp [hc, throw, throwThe, MonadExceptOf.throw]

@[simp] theorem ite_else_throw_eq_ok_iff {c : Prop} [Decidable c] {e : ε} {x : Except ε α} {a : α} :
    (if c then x else throw e) = .ok a ↔ c ∧ x = .ok a := by
  by_cases hc : c <;> simp [hc, throw, throwThe, MonadExceptOf.throw]

@[simp] theorem pure_eq_ok_iff {a b : α} : (pure a : Except ε α) = .ok b ↔ a = b := by
  simp [pure, Except.pure]

@[simp] theorem pure_ne_error {a : α} {e : ε} : (pure a : Except ε α) ≠ .error e := nofun

@[simp] theorem mapError_eq_ok_iff {x : Except ε α} {g : ε → ε'} {a : α} :
    x.mapError g = .ok a ↔ x = .ok a := by
  cases x <;> simp [Except.mapError]

theorem mapError_eq_error_iff {x : Except ε α} {g : ε → ε'} {e : ε'} :
    x.mapError g = .error e ↔ ∃ d, x = .error d ∧ g d = e := by
  cases x <;> simp [Except.mapError]

theorem isOk_iff {x : Except ε Unit} : x.isOk = true ↔ x = .ok () := by
  cases x <;> simp [Except.isOk, Except.toBool]

@[simp] theorem toOption_eq_some_iff {x : Except ε α} {a : α} : x.toOption = some a ↔ x = .ok a := by
  cases x <;> simp [Except.toOption]

theorem ok_or_error (x : Except ε α) : (∃ a, x = .ok a) ∨ ∃ e, x = .error e := by
  cases x <;> simp

/-- A computation that succeeds exactly if two others do fails exactly if one of them does. -/
theorem exists_error_iff_or {γ : Type} {x : Except ε α} {y : Except ε β} {z : Except ε γ}
    {g : α → β → γ} (h : ∀ c, z = .ok c ↔ ∃ a b, x = .ok a ∧ y = .ok b ∧ c = g a b) :
    (∃ e, z = .error e) ↔ (∃ e, x = .error e) ∨ ∃ e, y = .error e := by
  cases hz : z with
  | ok c =>
    obtain ⟨a, b, rfl, rfl, -⟩ := (h c).1 hz
    simp
  | error e =>
    refine iff_of_true ⟨e, rfl⟩ ?_
    cases hx : x with
    | error e => exact .inl ⟨e, rfl⟩
    | ok a =>
      cases hy : y with
      | error e => exact .inr ⟨e, rfl⟩
      | ok b => cases hz.symm.trans ((h _).2 ⟨a, b, hx, hy, rfl⟩)

/-! ### Lists -/

theorem mapM_cons_eq_ok_iff {f : α → Except ε β} {a : α} {as : List α} {bs : List β} :
    (a :: as).mapM f = .ok bs ↔ ∃ b more, f a = .ok b ∧ as.mapM f = .ok more ∧ bs = b :: more := by
  rw [List.mapM_cons, bind_eq_ok_iff]
  constructor
  · rintro ⟨b, hb, h⟩
    obtain ⟨more, hmore, h⟩ := bind_eq_ok_iff.1 h
    exact ⟨b, more, hb, hmore, (pure_eq_ok_iff.1 h).symm⟩
  · rintro ⟨b, more, hb, hmore, rfl⟩
    exact ⟨b, hb, bind_eq_ok_iff.2 ⟨more, hmore, rfl⟩⟩

theorem mapM_eq_ok_iff {f : α → Except ε β} {as : List α} {bs : List β} :
    as.mapM f = .ok bs ↔ List.Forall₂ (fun a b => f a = .ok b) as bs := by
  induction as generalizing bs with
  | nil => cases bs <;> simp [pure, Except.pure]
  | cons a as ih =>
    rw [mapM_cons_eq_ok_iff, List.forall₂_cons_left_iff]
    constructor
    · rintro ⟨b, more, hb, hmore, rfl⟩
      exact ⟨b, more, hb, ih.1 hmore, rfl⟩
    · rintro ⟨b, more, hb, hmore, rfl⟩
      exact ⟨b, more, hb, ih.2 hmore, rfl⟩

theorem exists_mapM_eq_ok_iff {f : α → Except ε β} {as : List α} :
    (∃ bs, as.mapM f = .ok bs) ↔ ∀ a ∈ as, ∃ b, f a = .ok b := by
  induction as with
  | nil => exact ⟨by simp, fun _ => ⟨[], rfl⟩⟩
  | cons a as ih =>
    rw [List.forall_mem_cons, ← ih]
    constructor
    · rintro ⟨bs, h⟩
      obtain ⟨b, more, hb, hmore, -⟩ := mapM_cons_eq_ok_iff.1 h
      exact ⟨⟨b, hb⟩, more, hmore⟩
    · rintro ⟨⟨b, hb⟩, more, hmore⟩
      exact ⟨b :: more, mapM_cons_eq_ok_iff.2 ⟨b, more, hb, hmore, rfl⟩⟩

/-- Computations that all succeed give the list of their results. -/
theorem mapM_eq_ok_map {f : α → Except ε β} {g : α → β} {as : List α}
    (h : ∀ a ∈ as, f a = .ok (g a)) : as.mapM f = .ok (as.map g) := by
  rw [mapM_eq_ok_iff, List.forall₂_map_right_iff]
  exact List.forall₂_same.2 h

theorem mapM_append_eq_ok_iff {f : α → Except ε β} {as as' : List α} {bs : List β} :
    (as ++ as').mapM f = .ok bs ↔
      ∃ bs₁ bs₂, as.mapM f = .ok bs₁ ∧ as'.mapM f = .ok bs₂ ∧ bs = bs₁ ++ bs₂ := by
  rw [List.mapM_append, bind_eq_ok_iff]
  refine exists_congr fun bs₁ => ?_
  rw [bind_eq_ok_iff]
  constructor
  · rintro ⟨h₁, bs₂, h₂, h⟩
    exact ⟨bs₂, h₁, h₂, (pure_eq_ok_iff.1 h).symm⟩
  · rintro ⟨bs₂, h₁, h₂, rfl⟩
    exact ⟨h₁, bs₂, h₂, rfl⟩

/-- A result in the middle is that of an element in the middle. -/
theorem mapM_eq_ok_append {f : α → Except ε β} {as : List α} {bs bs' : List β} {b : β}
    (h : as.mapM f = .ok (bs ++ b :: bs')) :
    ∃ as₁ a as₂, as = as₁ ++ a :: as₂ ∧ as₁.mapM f = .ok bs ∧ f a = .ok b := by
  induction bs generalizing as with
  | nil =>
    rcases as with _ | ⟨a, as⟩
    · cases h
    · obtain ⟨b', more, hb', -, heq⟩ := mapM_cons_eq_ok_iff.1 h
      obtain ⟨rfl, -⟩ := List.cons.inj heq
      exact ⟨[], a, as, rfl, rfl, hb'⟩
  | cons b₀ bs ih =>
    rcases as with _ | ⟨a₀, as⟩
    · cases h
    · obtain ⟨b', more, hb', hmore, heq⟩ := mapM_cons_eq_ok_iff.1 h
      obtain ⟨rfl, rfl⟩ := List.cons.inj heq
      obtain ⟨as₁, a, as₂, rfl, has₁, ha⟩ := ih hmore
      exact ⟨a₀ :: as₁, a, as₂, rfl, mapM_cons_eq_ok_iff.2 ⟨b₀, bs, hb', has₁, rfl⟩, ha⟩

/-- A computation that gives what another one gives on each element gives the same results. -/
theorem mapM_eq_ok_of_imp {f g : α → Except ε β} {as : List α} {bs : List β}
    (himp : ∀ a ∈ as, ∀ b, f a = .ok b → g a = .ok b) (h : as.mapM f = .ok bs) :
    as.mapM g = .ok bs := by
  induction as generalizing bs with
  | nil => exact h
  | cons a as ih =>
    obtain ⟨b, more, hb, hmore, rfl⟩ := mapM_cons_eq_ok_iff.1 h
    refine mapM_cons_eq_ok_iff.2 ⟨b, more, himp a List.mem_cons_self b hb, ?_, rfl⟩
    exact ih (fun x hx => himp x (List.mem_cons_of_mem _ hx)) hmore

theorem mapM_mem_right {f : α → Except ε β} {as : List α} {bs : List β} (h : as.mapM f = .ok bs)
    {b : β} (hb : b ∈ bs) : ∃ a ∈ as, f a = .ok b := by
  induction as generalizing bs with
  | nil =>
    obtain rfl : [] = bs := by simpa using h
    cases hb
  | cons a as ih =>
    obtain ⟨b', more, hb', hmore, rfl⟩ := mapM_cons_eq_ok_iff.1 h
    rcases List.mem_cons.1 hb with rfl | hb
    · exact ⟨a, List.mem_cons_self, hb'⟩
    · obtain ⟨x, hx, hfx⟩ := ih hmore hb
      exact ⟨x, List.mem_cons_of_mem _ hx, hfx⟩

theorem mem_mapM_iff {f : α → Except ε β} {as : List α} {bs : List β} (h : as.mapM f = .ok bs) {b : β} :
    b ∈ bs ↔ ∃ a ∈ as, f a = .ok b := by
  refine ⟨mapM_mem_right h, ?_⟩
  rintro ⟨a, ha, hb⟩
  obtain ⟨as₁, as₂, rfl⟩ := List.append_of_mem ha
  obtain ⟨bs₁, rest, -, hrest, rfl⟩ := mapM_append_eq_ok_iff.1 h
  obtain ⟨b', more, hb', -, rfl⟩ := mapM_cons_eq_ok_iff.1 hrest
  obtain rfl := Except.ok.inj (hb.symm.trans hb')
  exact List.mem_append_right bs₁ List.mem_cons_self

/-- Whether all computations succeed, and with which results, does not depend on the order of the
elements or on how often each is there. -/
theorem mapM_eq_ok_of_same_members {f : α → Except ε β} {as as' : List α} {bs : List β}
    (hsame : ∀ a, a ∈ as ↔ a ∈ as') (h : as.mapM f = .ok bs) :
    ∃ bs', as'.mapM f = .ok bs' ∧ ∀ b, b ∈ bs ↔ b ∈ bs' := by
  have hall := exists_mapM_eq_ok_iff.1 ⟨bs, h⟩
  obtain ⟨bs', h'⟩ := exists_mapM_eq_ok_iff.2 fun a ha => hall a ((hsame a).2 ha)
  refine ⟨bs', h', fun b => ?_⟩
  rw [mem_mapM_iff h, mem_mapM_iff h']
  simp only [hsame]

theorem forM_eq_ok_iff {f : α → Except ε Unit} {as : List α} :
    as.forM f = .ok () ↔ ∀ a ∈ as, f a = .ok () := by
  induction as with
  | nil => simp [pure, Except.pure]
  | cons a as ih =>
    rw [List.forall_mem_cons, ← ih]
    exact unit_bind_eq_ok_iff

/-- **A list of computations fails with the error of the first one that does.** -/
theorem mapM_eq_error_iff {f : α → Except ε β} {as : List α} {e : ε} :
    as.mapM f = .error e ↔
      ∃ before a after, as = before ++ a :: after ∧ (∀ x ∈ before, ∃ b, f x = .ok b) ∧
        f a = .error e := by
  induction as with
  | nil => simp
  | cons a as ih =>
    rw [List.mapM_cons, bind_eq_error_iff]
    constructor
    · rintro (ha | ⟨b, hb, h⟩)
      · exact ⟨[], a, as, rfl, by simp, ha⟩
      · rcases bind_eq_error_iff.1 h with h | ⟨more, -, h⟩
        · obtain ⟨before, x, after, rfl, hbefore, hx⟩ := ih.1 h
          refine ⟨a :: before, x, after, rfl, ?_, hx⟩
          intro y hy
          rcases List.mem_cons.1 hy with rfl | hy
          · exact ⟨b, hb⟩
          · exact hbefore y hy
        · exact absurd h pure_ne_error
    · rintro ⟨before, x, after, has, hbefore, hx⟩
      rcases before with _ | ⟨y, before⟩
      · obtain ⟨rfl, rfl⟩ := List.cons.inj has
        exact .inl hx
      · obtain ⟨rfl, rfl⟩ := List.cons.inj has
        obtain ⟨b, hb⟩ := hbefore a (by simp)
        refine .inr ⟨b, hb, bind_eq_error_iff.2 (.inl (ih.2 ⟨before, x, after, rfl, ?_, hx⟩))⟩
        exact fun z hz => hbefore z (List.mem_cons_of_mem _ hz)

end Except

/-! ### Lists of readings -/

namespace Option

variable {α β : Type} {f : α → Option β} {a : α} {as bs : List α}

theorem mapM_append_cons :
    (as ++ a :: bs).mapM f =
      (as.mapM f).bind fun xs => (f a).bind fun y => (bs.mapM f).bind fun ys => some (xs ++ y :: ys) := by
  rw [List.mapM_append, List.mapM_cons]
  refine Option.bind_congr fun xs _ => ?_
  cases f a with
  | none => rfl
  | some y => cases bs.mapM f <;> rfl

/-- A list of readings fails with any of them. -/
theorem mapM_append_cons_of_eq_none (h : f a = none) : (as ++ a :: bs).mapM f = none := by
  rw [mapM_append_cons]
  refine Option.bind_eq_none_iff.2 fun xs _ => ?_
  rw [h, Option.bind_none]

theorem mapM_append_cons_congr {a' : α} (h : f a = f a') :
    (as ++ a :: bs).mapM f = (as ++ a' :: bs).mapM f := by
  rw [mapM_append_cons, mapM_append_cons, h]

theorem mem_of_mapM {xs : List β} {x : β} (h : as.mapM f = some xs) (ha : a ∈ as)
    (hx : f a = some x) : x ∈ xs := by
  obtain ⟨before, after, rfl⟩ := List.append_of_mem ha
  rw [mapM_append_cons, hx] at h
  simp only [Option.bind_some, Option.bind_eq_some_iff, Option.some_inj] at h
  obtain ⟨ys, -, zs, -, rfl⟩ := h
  exact List.mem_append_right ys List.mem_cons_self

end Option
