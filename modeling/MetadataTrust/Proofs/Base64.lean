import Mathlib.Data.Option.Basic
import MetadataTrust.Base64

/-!
# Base64 can be read back

Reading what was written gives the octets again, so different octets have different texts.  A text
holds letters, digits, `+`, `/` and `=` only.
-/

namespace MetadataTrust.Base64

/-! ### Digits -/

lemma digitValue?_digit : ∀ n < 64, digitValue? (digit n) = some n := by decide

lemma digit_ne_pad : ∀ n < 64, digit n ≠ '=' := by decide

lemma digit_toNat : ∀ n < 64, 43 ≤ (digit n).toNat ∧ (digit n).toNat < 123 ∧
    (digit n).toNat ≠ 60 := by decide

lemma octet_eq {n : Nat} {a : UInt8} (h : n = a.toNat) : UInt8.ofNat n = a := by
  rw [h, UInt8.ofNat_toNat]

section Groups

variable (a b c : UInt8) (rest : List Char)

lemma decodeChars?_one :
    decodeChars? [digit (a.toNat / 4), digit (a.toNat % 4 * 16), '=', '='] = some [a] := by
  have hlt := a.toNat_lt
  have ha := digitValue?_digit (a.toNat / 4) (by omega)
  have ha' := digitValue?_digit (a.toNat % 4 * 16) (by omega)
  have hzero : a.toNat % 4 * 16 % 16 = 0 := by omega
  have h : UInt8.ofNat (a.toNat / 4 * 4 + a.toNat % 4 * 16 / 16) = a := octet_eq (by omega)
  rw [decodeChars?]
  refine Option.bind_eq_some_iff.2 ⟨_, ha, Option.bind_eq_some_iff.2 ⟨_, ha', ?_⟩⟩
  refine Option.bind_eq_some_iff.2 ⟨(), if_pos hzero, ?_⟩
  rw [h]
  rfl

lemma decodeChars?_two :
    decodeChars? [digit (a.toNat / 4), digit (a.toNat % 4 * 16 + b.toNat / 16),
      digit (b.toNat % 16 * 4), '='] = some [a, b] := by
  have hlt := a.toNat_lt
  have hlt' := b.toNat_lt
  have ha := digitValue?_digit (a.toNat / 4) (by omega)
  have hab := digitValue?_digit (a.toNat % 4 * 16 + b.toNat / 16) (by omega)
  have hb := digitValue?_digit (b.toNat % 16 * 4) (by omega)
  have hpad := digit_ne_pad (b.toNat % 16 * 4) (by omega)
  have hzero : b.toNat % 16 * 4 % 4 = 0 := by omega
  have h : UInt8.ofNat (a.toNat / 4 * 4 + (a.toNat % 4 * 16 + b.toNat / 16) / 16) = a :=
    octet_eq (by omega)
  have h' : UInt8.ofNat ((a.toNat % 4 * 16 + b.toNat / 16) % 16 * 16 + b.toNat % 16 * 4 / 4) = b :=
    octet_eq (by omega)
  rw [decodeChars?]
  · refine Option.bind_eq_some_iff.2 ⟨_, ha, Option.bind_eq_some_iff.2 ⟨_, hab, ?_⟩⟩
    refine Option.bind_eq_some_iff.2 ⟨_, hb, Option.bind_eq_some_iff.2 ⟨(), if_pos hzero, ?_⟩⟩
    rw [h, h']
    rfl
  · exact hpad

lemma decodeChars?_three {bs : Octets} (hrest : decodeChars? rest = some bs) :
    decodeChars? (digit (a.toNat / 4) :: digit (a.toNat % 4 * 16 + b.toNat / 16) ::
      digit (b.toNat % 16 * 4 + c.toNat / 64) :: digit (c.toNat % 64) :: rest) =
      some (a :: b :: c :: bs) := by
  have hlt := a.toNat_lt
  have hlt' := b.toNat_lt
  have hlt'' := c.toNat_lt
  have ha := digitValue?_digit (a.toNat / 4) (by omega)
  have hab := digitValue?_digit (a.toNat % 4 * 16 + b.toNat / 16) (by omega)
  have hbc := digitValue?_digit (b.toNat % 16 * 4 + c.toNat / 64) (by omega)
  have hc := digitValue?_digit (c.toNat % 64) (by omega)
  have hpad := digit_ne_pad (c.toNat % 64) (by omega)
  have h : UInt8.ofNat (a.toNat / 4 * 4 + (a.toNat % 4 * 16 + b.toNat / 16) / 16) = a :=
    octet_eq (by omega)
  have h' : UInt8.ofNat ((a.toNat % 4 * 16 + b.toNat / 16) % 16 * 16 +
      (b.toNat % 16 * 4 + c.toNat / 64) / 4) = b := octet_eq (by omega)
  have h'' : UInt8.ofNat ((b.toNat % 16 * 4 + c.toNat / 64) % 4 * 64 + c.toNat % 64) = c :=
    octet_eq (by omega)
  rw [decodeChars?]
  · simp only [ha, hab, hbc, hc, hrest, Option.bind_eq_bind, Option.bind_some, Option.pure_def, h, h',
      h'']
  · exact fun _ hd => absurd hd hpad
  · exact fun hd => absurd hd hpad

end Groups

/-! ### Reading what was written -/

theorem decodeChars?_encodeChars (bs : Octets) : decodeChars? (encodeChars bs) = some bs := by
  induction bs using encodeChars.induct with
  | case1 => rfl
  | case2 a => exact decodeChars?_one a
  | case3 a b => exact decodeChars?_two a b
  | case4 a b c rest ih => exact decodeChars?_three a b c _ ih

theorem encode_injective {bs cs : Octets} (h : encode bs = encode cs) : bs = cs := by
  have hchars : encodeChars bs = encodeChars cs := String.ofList_injective h
  have hdecode := congrArg decodeChars? hchars
  rw [decodeChars?_encodeChars, decodeChars?_encodeChars] at hdecode
  exact Option.some.inj hdecode

/-! ### The alphabet -/

theorem mem_encodeChars {bs : Octets} {x : Char} (h : x ∈ encodeChars bs) :
    x = '=' ∨ ∃ n < 64, x = digit n := by
  induction bs using encodeChars.induct with
  | case1 => cases h
  | case2 a =>
    have hlt := a.toNat_lt
    simp only [encodeChars, List.mem_cons, List.not_mem_nil, or_false] at h
    rcases h with rfl | rfl | rfl | rfl
    · exact .inr ⟨_, by omega, rfl⟩
    · exact .inr ⟨_, by omega, rfl⟩
    · exact .inl rfl
    · exact .inl rfl
  | case3 a b =>
    have hlt := a.toNat_lt
    have hlt' := b.toNat_lt
    simp only [encodeChars, List.mem_cons, List.not_mem_nil, or_false] at h
    rcases h with rfl | rfl | rfl | rfl
    · exact .inr ⟨_, by omega, rfl⟩
    · exact .inr ⟨_, by omega, rfl⟩
    · exact .inr ⟨_, by omega, rfl⟩
    · exact .inl rfl
  | case4 a b c rest ih =>
    have hlt := a.toNat_lt
    have hlt' := b.toNat_lt
    have hlt'' := c.toNat_lt
    simp only [encodeChars, List.mem_cons] at h
    rcases h with rfl | rfl | rfl | rfl | h
    · exact .inr ⟨_, by omega, rfl⟩
    · exact .inr ⟨_, by omega, rfl⟩
    · exact .inr ⟨_, by omega, rfl⟩
    · exact .inr ⟨_, by omega, rfl⟩
    · exact ih h

theorem toNat_of_mem_encodeChars {bs : Octets} {x : Char} (h : x ∈ encodeChars bs) :
    43 ≤ x.toNat ∧ x.toNat < 123 ∧ x.toNat ≠ 60 := by
  rcases mem_encodeChars h with rfl | ⟨n, hn, rfl⟩
  · decide
  · exact digit_toNat n hn

lemma isBlank_of_mem_encodeChars {bs : Octets} {x : Char} (h : x ∈ encodeChars bs) :
    Text.isBlank x = false := by
  have hrange := toNat_of_mem_encodeChars h
  simp only [Text.isBlank, Bool.or_eq_false_iff, Bool.and_eq_false_iff, decide_eq_false_iff_not,
    beq_eq_false_iff_ne]
  omega

/-- Reading what was written drops nothing, as a text holds no blanks. -/
theorem decode?_encode (bs : Octets) : decode? (encode bs) = some bs := by
  have hblank : ∀ c ∈ encodeChars bs, (!Text.isBlank c) = true := fun c hc => by
    rw [isBlank_of_mem_encodeChars hc]
    rfl
  unfold decode? encode Text.removeBlanks
  rw [String.toList_ofList, List.filter_eq_self.2 hblank, decodeChars?_encodeChars]

end MetadataTrust.Base64
