import Mathlib.Algebra.Group.Nat.Defs
import Mathlib.Tactic.Common
import MetadataTrust.Instant

/-!
# Written moments are read back

A moment is read from its text as it was, with a year of any length and a fraction of none, three, six or
nine digits; so different moments have different texts.
-/

namespace MetadataTrust.Instant

/-! ### Numbers -/

lemma digitsValue_eq (ds : List Char) : digitsValue ds = Nat.ofDigitChars 10 ds 0 := by
  have hzero : '0'.toNat = 48 := rfl
  rw [Nat.ofDigitChars_eq_foldl, digitsValue, hzero]
  simp only [Nat.mul_comm]

lemma digitsValue_padded (width n : Nat) : digitsValue (padded width n) = n := by
  rw [digitsValue_eq, padded, Nat.ofDigitChars_append, Nat.ofDigitChars_replicate_zero, Nat.mul_zero,
    Nat.ofDigitChars_ten_toDigits]

lemma isDigit_of_mem_padded {width n : Nat} {c : Char} (h : c ∈ padded width n) : c.isDigit = true := by
  rcases List.mem_append.1 h with h | h
  · rw [List.eq_of_mem_replicate h]
    rfl
  · exact Nat.isDigit_of_mem_toDigits (by decide) (by decide) h

lemma padded_ne_nil (width n : Nat) : padded width n ≠ [] := by
  intro h
  exact Nat.toDigits_ne_nil (List.append_eq_nil_iff.1 h).2

lemma length_padded {width n : Nat} (hwidth : 0 < width) (hn : n < 10 ^ width) :
    (padded width n).length = width := by
  have hle := (Nat.length_toDigits_le_iff (by decide) hwidth).2 hn
  rw [padded, List.length_append, List.length_replicate]
  omega

/-- As many digits as may belong to a number are read, and no others. -/
lemma number?_digits {most : Nat} {ds rest : List Char} (hne : ds ≠ [])
    (hdigits : ∀ c ∈ ds, c.isDigit = true) (hmost : ds.length ≤ most)
    (hend : ds.length = most ∨ ∃ c more, rest = c :: more ∧ c.isDigit = false) :
    number? most (ds ++ rest) = some (digitsValue ds, rest) := by
  have hstop : (rest.take (most - ds.length)).takeWhile Char.isDigit = [] := by
    rcases hend with hlength | ⟨c, more, rfl, hc⟩
    · rw [hlength, Nat.sub_self, List.take_zero, List.takeWhile_nil]
    · cases most - ds.length with
      | zero => rfl
      | succ k => rw [List.take_succ_cons, List.takeWhile_cons_of_neg (by simp [hc])]
  have hread : ((ds ++ rest).take most).takeWhile Char.isDigit = ds := by
    rw [List.take_append, List.take_of_length_le hmost, List.takeWhile_append_of_pos hdigits, hstop,
      List.append_nil]
  unfold number?
  rw [hread]
  simp only [hne, if_false, List.drop_left]

lemma isBlank_of_isDigit {c : Char} (h : c.isDigit = true) : Text.isBlank c = false := by
  have h48 : 48 ≤ c.toNat := by
    simp only [Char.isDigit, Bool.and_eq_true, decide_eq_true_eq] at h
    exact h.1
  have h57 : c.toNat ≤ 57 := by
    simp only [Char.isDigit, Bool.and_eq_true, decide_eq_true_eq] at h
    exact h.2
  simp only [Text.isBlank, Bool.or_eq_false_iff, Bool.and_eq_false_iff, decide_eq_false_iff_not,
    beq_eq_false_iff_ne]
  omega

lemma skipBlanks_digits {ds rest : List Char} (hne : ds ≠ []) (hdigits : ∀ c ∈ ds, c.isDigit = true) :
    skipBlanks (ds ++ rest) = ds ++ rest := by
  obtain ⟨c, more, rfl⟩ := List.exists_cons_of_ne_nil hne
  have hc := isBlank_of_isDigit (hdigits c List.mem_cons_self)
  rw [List.cons_append, skipBlanks, List.dropWhile_cons_of_neg (by simp [hc])]

lemma field?_padded {width n : Nat} (hwidth : 0 < width) (hn : n < 10 ^ width) (rest : List Char) :
    field? width (padded width n ++ rest) = some (n, rest) := by
  have hlength := length_padded hwidth hn
  have hdigits : ∀ c ∈ padded width n, c.isDigit = true := fun c hc => isDigit_of_mem_padded hc
  unfold field?
  rw [skipBlanks_digits (padded_ne_nil _ _) hdigits, number?_digits (padded_ne_nil _ _) hdigits
    (Nat.le_of_eq hlength) (.inl hlength), digitsValue_padded]

/-! ### The parts of a moment -/

lemma year?_yearChars (y : Int) (rest : List Char) :
    year? (yearChars y ++ '-' :: rest) = some (y, '-' :: rest) := by
  have hdigits : ∀ c ∈ padded 4 y.natAbs, c.isDigit = true := fun c hc => isDigit_of_mem_padded hc
  have hne := padded_ne_nil 4 y.natAbs
  have hend : ∃ c more, '-' :: rest = c :: more ∧ c.isDigit = false := ⟨'-', rest, rfl, rfl⟩
  unfold yearChars
  split
  · -- four digits, which no sign can be mistaken for
    have hlength : (padded 4 y.natAbs).length = 4 := length_padded (by decide) (by omega)
    have hskip : skipBlanks (padded 4 y.natAbs ++ '-' :: rest) = padded 4 y.natAbs ++ '-' :: rest :=
      skipBlanks_digits hne hdigits
    have hread := number?_digits hne hdigits (Nat.le_of_eq hlength) (.inr hend)
    have hyear : (y.natAbs : Int) = y := by omega
    obtain ⟨c, more, hc⟩ := List.exists_cons_of_ne_nil hne
    have hdigit : c.isDigit = true := hdigits c (hc ▸ List.mem_cons_self)
    rw [digitsValue_padded] at hread
    rw [hc] at hskip hread ⊢
    unfold year?
    rw [hskip]
    split
    · rename_i heq
      rw [(List.cons.inj heq).1] at hdigit
      cases hdigit
    · rename_i heq
      rw [(List.cons.inj heq).1] at hdigit
      cases hdigit
    · simp only [hread, Option.map_some, hyear]
  · have hlong : (padded 4 y.natAbs).length ≤ (padded 4 y.natAbs ++ '-' :: rest).length := by
      rw [List.length_append]
      omega
    have hread := number?_digits hne hdigits hlong (.inr hend)
    rw [digitsValue_padded] at hread
    split
    · have hskip : skipBlanks ('-' :: (padded 4 y.natAbs ++ '-' :: rest)) =
          '-' :: (padded 4 y.natAbs ++ '-' :: rest) := rfl
      have hyear : -(y.natAbs : Int) = y := by omega
      rw [List.cons_append, year?, hskip]
      simp only [hread, Option.map_some, hyear]
    · have hskip : skipBlanks ('+' :: (padded 4 y.natAbs ++ '-' :: rest)) =
          '+' :: (padded 4 y.natAbs ++ '-' :: rest) := rfl
      have hyear : (y.natAbs : Int) = y := by omega
      rw [List.cons_append, year?, hskip]
      simp only [hread, Option.map_some, hyear]

lemma fraction?_padded {width n : Nat} (hwidth : 0 < width) (hwidth' : width ≤ 9) (hn : n < 10 ^ width)
    (rest : List Char) :
    fraction? ('.' :: (padded width n ++ 'Z' :: rest)) =
      some (n * Nat.pow 10 (9 - width), 'Z' :: rest) := by
  have hlength := length_padded hwidth hn
  have hread : number? 9 (padded width n ++ 'Z' :: rest) = some (n, 'Z' :: rest) := by
    rw [number?_digits (padded_ne_nil _ _) (fun c hc => isDigit_of_mem_padded hc)
      (by omega) (.inr ⟨'Z', rest, rfl, rfl⟩), digitsValue_padded]
  have hcount : (padded width n ++ 'Z' :: rest).length - ('Z' :: rest).length = width := by
    rw [List.length_append, hlength, Nat.add_sub_cancel]
  have hdrop : ('Z' :: rest).dropWhile Char.isDigit = 'Z' :: rest := rfl
  simp only [fraction?, hread, Option.bind_eq_bind, Option.bind_some, hcount, hdrop, Option.pure_def]

lemma fraction?_fractionChars {nanos : Nat} (h : nanos < 1000000000) (rest : List Char) :
    fraction? (fractionChars nanos ++ 'Z' :: rest) = some (nanos, 'Z' :: rest) := by
  unfold fractionChars
  split
  · subst_vars
    rfl
  split
  · rw [List.cons_append, fraction?_padded (by decide) (by decide) (by omega)]
    have hsix : nanos / 1000000 * Nat.pow 10 (9 - 3) = nanos := by
      have hpow : Nat.pow 10 (9 - 3) = 1000000 := rfl
      rw [hpow]
      omega
    rw [hsix]
  split
  · rw [List.cons_append, fraction?_padded (by decide) (by decide) (by omega)]
    have hthree : nanos / 1000 * Nat.pow 10 (9 - 6) = nanos := by
      have hpow : Nat.pow 10 (9 - 6) = 1000 := rfl
      rw [hpow]
      omega
    rw [hthree]
  · rw [List.cons_append, fraction?_padded (by decide) (by decide) (by omega)]
    have hone : nanos * Nat.pow 10 (9 - 9) = nanos := Nat.mul_one nanos
    rw [hone]

lemma ofParts?_self (t : Instant) : ofParts? t.date t.hour t.minute t.second t.nanos = some t :=
  dif_pos ⟨t.dateValid, t.timeValid⟩

lemma shifted?_zero (t : Instant) : shifted? t.date t.hour t.minute t.second t.nanos 0 = some t := by
  obtain ⟨hhour, hminute, -⟩ := t.timeValid
  have hnot : ¬ ((t.hour : Int) * 60 + t.minute - 0 < 0) := by omega
  have hnot' : ¬ (1440 ≤ (t.hour : Int) * 60 + t.minute - 0) := by omega
  have hday : (((t.hour : Int) * 60 + t.minute - 0) % 1440).toNat = t.hour * 60 + t.minute := by omega
  have hdiv : (t.hour * 60 + t.minute) / 60 = t.hour := by omega
  have hmod : (t.hour * 60 + t.minute) % 60 = t.minute := by omega
  simp only [shifted?, hnot, hnot', if_false, hday, hdiv, hmod]
  exact t.ofParts?_self

/-! ### The whole -/

theorem read?_chars (t : Instant) : read? t.chars = some (t, []) := by
  obtain ⟨-, -, -, hmonth, -, hday⟩ := t.dateValid
  obtain ⟨hhour, hminute, hsecond, hnanos⟩ := t.timeValid
  have hdays : daysOfMonth t.date.year t.date.month ≤ 31 := by
    unfold daysOfMonth
    split
    · split <;> omega
    · split <;> omega
  have hmark : ∀ (c : Char) (rest : List Char), Text.isBlank c = false →
      mark? c (c :: rest) = some rest := by
    intro c rest hc
    simp [mark?, skipBlanks, hc]
  have htwo : ∀ n < 100, ∀ rest, field? 2 (padded 2 n ++ rest) = some (n, rest) :=
    fun n hn rest => field?_padded (by decide) hn rest
  have hoffset : offset? (skipBlanks ['Z']) = some (0, []) := rfl
  have hself : ofParts? ⟨t.date.year, t.date.month, t.date.day⟩ t.hour t.minute t.second t.nanos =
      some t := t.ofParts?_self
  have hshift : shifted? ⟨t.date.year, t.date.month, t.date.day⟩ t.hour t.minute t.second t.nanos 0 =
      some t := t.shifted?_zero
  have hchars : t.chars = yearChars t.date.year ++ '-' :: (padded 2 t.date.month ++ '-' ::
      (padded 2 t.date.day ++ 'T' :: (padded 2 t.hour ++ ':' :: (padded 2 t.minute ++ ':' ::
        (padded 2 t.second ++ (fractionChars t.nanos ++ ['Z'])))))) := by
    simp only [chars, List.append_assoc, List.cons_append]
  rw [hchars]
  refine Option.bind_eq_some_iff.2 ⟨_, year?_yearChars _ _, ?_⟩
  refine Option.bind_eq_some_iff.2 ⟨_, hmark '-' _ rfl, ?_⟩
  refine Option.bind_eq_some_iff.2 ⟨_, htwo _ (by omega) _, ?_⟩
  refine Option.bind_eq_some_iff.2 ⟨_, hmark '-' _ rfl, ?_⟩
  refine Option.bind_eq_some_iff.2 ⟨_, htwo _ (by omega) _, ?_⟩
  refine Option.bind_eq_some_iff.2 ⟨_, htwo _ (by omega) _, ?_⟩
  refine Option.bind_eq_some_iff.2 ⟨_, hmark ':' _ rfl, ?_⟩
  refine Option.bind_eq_some_iff.2 ⟨_, htwo _ (by omega) _, ?_⟩
  refine Option.bind_eq_some_iff.2 ⟨_, hmark ':' _ rfl, ?_⟩
  refine Option.bind_eq_some_iff.2 ⟨_, htwo _ (by omega) _, ?_⟩
  refine Option.bind_eq_some_iff.2 ⟨_, fraction?_fractionChars hnanos _, ?_⟩
  refine Option.bind_eq_some_iff.2 ⟨_, hoffset, ?_⟩
  refine Option.bind_eq_some_iff.2 ⟨_, hself, ?_⟩
  exact Option.bind_eq_some_iff.2 ⟨_, hshift, rfl⟩

/-- **A moment is read back from its text.** -/
theorem parse?_text (t : Instant) : parse? t.text = some t := by
  unfold parse? text
  rw [String.toList_ofList, read?_chars]
  rfl

theorem text_injective {t u : Instant} (h : t.text = u.text) : t = u := by
  have hread := t.parse?_text
  rw [h, u.parse?_text] at hread
  exact (Option.some.inj hread).symm

end MetadataTrust.Instant
