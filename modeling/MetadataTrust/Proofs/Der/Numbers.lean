import Mathlib.Algebra.Group.Nat.Defs
import Mathlib.Data.List.Induction
import Mathlib.Tactic.Common
import MetadataTrust.Der.Basic

/-!
# Numbers in octets

Octets write a number whatever zeros stand before it (`Octets.toNat_leadingZeros`), and the shortest ones
that do are those of `Octets.ofNatMinimal`.  The content of an encoded integer is read back as the number
that it was written for (`Der.naturalContent?_encodeNatural`).
-/

namespace MetadataTrust

namespace Octets

variable {n k : Nat} {b : UInt8} {bs : Octets}

lemma toNat_append_singleton (bs : Octets) (b : UInt8) :
    toNat (bs ++ [b]) = 256 * toNat bs + b.toNat := by
  simp [toNat]

@[simp] lemma toNat_zero_cons (bs : Octets) : toNat (0 :: bs) = toNat bs := rfl

/-- **Zeros in front do not count.** -/
lemma toNat_leadingZeros (k : Nat) (bs : Octets) : toNat (List.replicate k 0 ++ bs) = toNat bs := by
  induction k with
  | zero => rfl
  | succ k ih => exact ih

lemma toNat_lt (bs : Octets) : toNat bs < 256 ^ bs.length := by
  induction bs using List.reverseRecOn with
  | nil => decide
  | append_singleton bs b ih =>
    have hb : b.toNat < 256 := b.toNat_lt
    rw [toNat_append_singleton, List.length_append, List.length_singleton, Nat.pow_succ]
    omega

lemma toNat_ofNat (k n : Nat) : toNat (ofNat k n) = n % 256 ^ k := by
  induction k generalizing n with
  | zero => exact (Nat.mod_one n).symm
  | succ k ih =>
    have hb : (UInt8.ofNat n).toNat = n % 256 := UInt8.toNat_ofNat'
    rw [ofNat, toNat_append_singleton, ih, hb, Nat.pow_succ', Nat.mod_mul]
    omega

lemma width_of_ne_zero (hn : n ≠ 0) : width n = width (n / 256) + 1 := by
  rw [width, if_neg hn]

lemma lt_pow_width (n : Nat) : n < 256 ^ width n := by
  fun_induction width n with
  | case1 => decide
  | case2 n hn ih =>
    rw [Nat.pow_succ]
    omega

lemma width_le (h : n < 256 ^ k) : width n ≤ k := by
  induction k generalizing n with
  | zero =>
    obtain rfl : n = 0 := by omega
    simp [width]
  | succ k ih =>
    by_cases hn : n = 0
    · simp [hn, width]
    · have hless : n / 256 < 256 ^ k := by
        rw [Nat.pow_succ] at h
        omega
      rw [width_of_ne_zero hn]
      exact Nat.succ_le_succ (ih hless)

lemma width_le_of_bits (h : n < 1 <<< (8 * k)) : width n ≤ k := by
  rw [Nat.one_shiftLeft, Nat.pow_mul] at h
  exact width_le h

@[simp] lemma length_ofNatMinimal (n : Nat) : (ofNatMinimal n).length = width n := length_ofNat _ n

@[simp] lemma toNat_ofNatMinimal (n : Nat) : toNat (ofNatMinimal n) = n := by
  rw [ofNatMinimal, toNat_ofNat, Nat.mod_eq_of_lt (lt_pow_width n)]

/-- The shortest octets of a number do not start with a zero. -/
lemma head_ne_zero_of_ofNatMinimal (h : ofNatMinimal n = b :: bs) : b ≠ 0 := by
  rintro rfl
  have hvalue : toNat bs = n := by
    rw [← toNat_zero_cons, ← h, toNat_ofNatMinimal]
  have hlength : width n = bs.length + 1 := by
    rw [← length_ofNatMinimal, h, List.length_cons]
  -- the octets after the zero would write the number as well
  have hle : width n ≤ bs.length := width_le (hvalue ▸ toNat_lt bs)
  omega

end Octets

namespace Der

lemma naturalContent?_eq_some {b : UInt8} {bs : Octets} (hb : b.toNat < 128)
    (hspare : b = 0 → ∀ c ∈ bs.head?, 128 ≤ c.toNat) :
    naturalContent? (b :: bs) = some (Octets.toNat (b :: bs)) := by
  cases bs with
  | nil =>
    have hvalue : Octets.toNat [b] = b.toNat := by simp [Octets.toNat]
    rw [naturalContent?, if_pos hb, hvalue]
  | cons c bs =>
    refine if_pos ⟨hb, ?_⟩
    rintro ⟨hzero, hc⟩
    have hle : 128 ≤ c.toNat := hspare hzero c rfl
    omega

/-- **An integer's content is read back.** -/
lemma naturalContent?_encodeNatural (n : Nat) : naturalContent? (encodeNatural n) = some n := by
  unfold encodeNatural
  have hn := Octets.toNat_ofNatMinimal n
  cases hbs : Octets.ofNatMinimal n with
  | nil =>
    obtain rfl : 0 = n := by rw [← hn, hbs]; rfl
    rfl
  | cons b bs =>
    rw [hbs] at hn
    by_cases hb : b.toNat < 128
    · simp only [if_pos hb]
      rw [naturalContent?_eq_some hb fun hzero => absurd hzero (Octets.head_ne_zero_of_ofNatMinimal hbs),
        hn]
    · simp only [if_neg hb]
      rw [naturalContent?_eq_some (by decide) ?_, Octets.toNat_zero_cons, hn]
      rintro - c hc
      obtain rfl : b = c := Option.some.inj hc
      exact Nat.not_lt.1 hb

lemma length_encodeNatural_le (n : Nat) : (encodeNatural n).length ≤ Octets.width n + 1 := by
  unfold encodeNatural
  have hlength := Octets.length_ofNatMinimal n
  cases hbs : Octets.ofNatMinimal n with
  | nil => exact Nat.succ_le_succ (Nat.zero_le _)
  | cons b bs =>
    rw [hbs] at hlength
    by_cases hb : b.toNat < 128
    · simp only [if_pos hb]
      omega
    · simp only [if_neg hb, List.length_cons] at hlength ⊢
      omega

end Der

end MetadataTrust
