import Mathlib.Algebra.Order.Ring.Nat
import Mathlib.Data.List.Basic
import Mathlib.Tactic.Ring
import MetadataTrust.KeyInfo.Form
import MetadataTrust.Proofs.Base64

/-!
# Which texts are Base64

A text is accepted if it is made of groups of four characters, with at most two characters of padding at
the end and zeros in the bits that the padding leaves over (`WellFormed`).  The octets of an accepted text
are those whose number its digits write (`Regroups`), and the text is the one that is written for them:
reading accepts exactly what writing gives, with blanks anywhere.
-/

namespace MetadataTrust.Base64

/-! ### Digits and the numbers that they write -/

/-- The number that digits write, the most significant one first. -/
def numeral (base : Nat) (ds : List Nat) : Nat := ds.foldl (fun n d => base * n + d) 0

lemma foldl_numeral (base n : Nat) (ds : List Nat) :
    ds.foldl (fun n d => base * n + d) n = n * base ^ ds.length + numeral base ds := by
  induction ds generalizing n with
  | nil => simp [numeral]
  | cons d ds ih =>
    rw [numeral, List.foldl_cons, List.foldl_cons, ih, ih (base * 0 + d), List.length_cons, pow_succ']
    ring

lemma numeral_append (base : Nat) (ds es : List Nat) :
    numeral base (ds ++ es) = numeral base ds * base ^ es.length + numeral base es := by
  rw [numeral, List.foldl_append, foldl_numeral]
  rfl

lemma toNat_eq_numeral (bs : Octets) : Octets.toNat bs = numeral 256 (bs.map UInt8.toNat) :=
  List.foldl_map.symm

lemma toNat_append (bs cs : Octets) :
    Octets.toNat (bs ++ cs) = Octets.toNat bs * 256 ^ cs.length + Octets.toNat cs := by
  simp only [toNat_eq_numeral, List.map_append, numeral_append, List.length_map]

/-- The text of digits: a character for each of them, and padding. -/
def text (ds : List Nat) (pad : Nat) : List Char := ds.map digit ++ List.replicate pad '='

/-- Digits and padding that make a text of the format: groups of four characters, of which at most the
last two are padding, and zeros in the two bits that each of these leaves over. -/
structure WellFormed (ds : List Nat) (pad : Nat) : Prop where
  digit_lt : ∀ d ∈ ds, d < 64
  pad_lt : pad < 3
  groups : 4 ∣ ds.length + pad
  spare : 4 ^ pad ∣ numeral 64 ds

/-- The digits write the octets: padding stands for what three octets are short of, and the digits write
the number of the octets with two zero bits for each character of padding. -/
structure Regroups (bs : Octets) (ds : List Nat) (pad : Nat) : Prop where
  digit_lt : ∀ d ∈ ds, d < 64
  pad_lt : pad < 3
  length : 3 * (ds.length + pad) = 4 * (bs.length + pad)
  number : numeral 64 ds = Octets.toNat bs * 4 ^ pad

section Digits

variable {ds : List Nat} {pad x y z w : Nat}

/-- One more group in front leaves the padding as it is. -/
lemma WellFormed.spare_iff (ds : List Nat) (hpad : pad < 3) (hgroups : 4 ∣ ds.length + pad) :
    4 ^ pad ∣ numeral 64 ([x, y, z, w] ++ ds) ↔ 4 ^ pad ∣ numeral 64 ds := by
  have hle : pad ≤ 3 * ds.length := by omega
  have hpow : 4 ^ pad ∣ 64 ^ ds.length := by
    rw [show 64 = 4 ^ 3 from rfl, ← pow_mul]
    exact pow_dvd_pow 4 hle
  rw [numeral_append]
  exact Nat.dvd_add_right (hpow.mul_left _)

lemma wellFormed_group_iff :
    WellFormed (x :: y :: z :: w :: ds) pad ↔
      (x < 64 ∧ y < 64 ∧ z < 64 ∧ w < 64) ∧ WellFormed ds pad := by
  constructor
  · intro h
    have hgroups : 4 ∣ ds.length + pad := by
      have hall := h.groups
      simp only [List.length_cons] at hall
      omega
    have hlt := h.digit_lt
    simp only [List.forall_mem_cons] at hlt
    exact ⟨⟨hlt.1, hlt.2.1, hlt.2.2.1, hlt.2.2.2.1⟩, hlt.2.2.2.2, h.pad_lt, hgroups,
      (WellFormed.spare_iff ds h.pad_lt hgroups).1 h.spare⟩
  · rintro ⟨⟨hx, hy, hz, hw⟩, h⟩
    refine ⟨?_, h.pad_lt, ?_, (WellFormed.spare_iff ds h.pad_lt h.groups).2 h.spare⟩
    · simp only [List.forall_mem_cons]
      exact ⟨hx, hy, hz, hw, h.digit_lt⟩
    · have hgroups := h.groups
      simp only [List.length_cons]
      omega

end Digits

/-! ### What is written -/

section Writing

variable {bs : Octets} {a b c : UInt8}

lemma regroups_one (a : UInt8) :
    Regroups [a] [a.toNat / 4, a.toNat % 4 * 16] 2 := by
  have hlt := a.toNat_lt
  refine ⟨?_, by omega, rfl, ?_⟩
  · simp only [List.forall_mem_cons, List.not_mem_nil, false_imp_iff, implies_true, and_true]
    omega
  · simp only [numeral, Octets.toNat, List.foldl_cons, List.foldl_nil]
    omega

lemma regroups_two (a b : UInt8) :
    Regroups [a, b] [a.toNat / 4, a.toNat % 4 * 16 + b.toNat / 16, b.toNat % 16 * 4] 1 := by
  have hlt := a.toNat_lt
  have hlt' := b.toNat_lt
  refine ⟨?_, by omega, rfl, ?_⟩
  · simp only [List.forall_mem_cons, List.not_mem_nil, false_imp_iff, implies_true, and_true]
    omega
  · simp only [numeral, Octets.toNat, List.foldl_cons, List.foldl_nil]
    omega

/-- Three more octets in front are four more digits. -/
lemma Regroups.group {ds : List Nat} {pad : Nat} (a b c : UInt8) (h : Regroups bs ds pad) :
    Regroups (a :: b :: c :: bs) (a.toNat / 4 :: (a.toNat % 4 * 16 + b.toNat / 16) ::
      (b.toNat % 16 * 4 + c.toNat / 64) :: c.toNat % 64 :: ds) pad := by
  have hlt := a.toNat_lt
  have hlt' := b.toNat_lt
  have hlt'' := c.toNat_lt
  have hlength := h.length
  refine ⟨?_, h.pad_lt, ?_, ?_⟩
  · simp only [List.forall_mem_cons]
    exact ⟨by omega, by omega, by omega, by omega, h.digit_lt⟩
  · simp only [List.length_cons]
    omega
  · have hgroup : numeral 64 [a.toNat / 4, a.toNat % 4 * 16 + b.toNat / 16,
        b.toNat % 16 * 4 + c.toNat / 64, c.toNat % 64] = Octets.toNat [a, b, c] := by
      simp only [numeral, Octets.toNat, List.foldl_cons, List.foldl_nil]
      omega
    -- both lists are followed by the same number of bits, those of the padding counted
    have hbits : 64 ^ ds.length = 256 ^ bs.length * 4 ^ pad := by
      rw [show 64 = 4 ^ 3 from rfl, show 256 = 4 ^ 4 from rfl, ← pow_mul, ← pow_mul, ← pow_add]
      exact congrArg (4 ^ ·) (by omega)
    calc numeral 64 ([a.toNat / 4, a.toNat % 4 * 16 + b.toNat / 16,
          b.toNat % 16 * 4 + c.toNat / 64, c.toNat % 64] ++ ds)
        = Octets.toNat [a, b, c] * (256 ^ bs.length * 4 ^ pad) + Octets.toNat bs * 4 ^ pad := by
          rw [numeral_append, hgroup, hbits, h.number]
      _ = (Octets.toNat [a, b, c] * 256 ^ bs.length + Octets.toNat bs) * 4 ^ pad := by ring
      _ = Octets.toNat ([a, b, c] ++ bs) * 4 ^ pad := by rw [toNat_append]

/-- **Octets are written as the format says.** -/
theorem exists_regroups (bs : Octets) :
    ∃ ds pad, Regroups bs ds pad ∧ encodeChars bs = text ds pad := by
  induction bs using encodeChars.induct with
  | case1 => exact ⟨[], 0, ⟨by simp, by omega, rfl, rfl⟩, rfl⟩
  | case2 a => exact ⟨_, 2, regroups_one a, rfl⟩
  | case3 a b => exact ⟨_, 1, regroups_two a b, rfl⟩
  | case4 a b c rest ih =>
    obtain ⟨ds, pad, hds, htext⟩ := ih
    refine ⟨_, pad, hds.group a b c, ?_⟩
    rw [encodeChars, htext]
    exact rfl

end Writing

/-! ### Every text of the format is written for some octets -/

section Texts

variable {x y z w : Nat}

lemma toNat_ofNat_of_lt {n : Nat} (h : n < 256) : (UInt8.ofNat n).toNat = n := by
  rw [UInt8.toNat_ofNat', Nat.mod_eq_of_lt h]

lemma encodeChars_group (hx : x < 64) (hy : y < 64) (hz : z < 64) (hw : w < 64) (bs : Octets) :
    encodeChars (UInt8.ofNat (x * 4 + y / 16) :: UInt8.ofNat (y % 16 * 16 + z / 4) ::
      UInt8.ofNat (z % 4 * 64 + w) :: bs) =
      digit x :: digit y :: digit z :: digit w :: encodeChars bs := by
  have ha : (UInt8.ofNat (x * 4 + y / 16)).toNat = x * 4 + y / 16 := toNat_ofNat_of_lt (by omega)
  have hb : (UInt8.ofNat (y % 16 * 16 + z / 4)).toNat = y % 16 * 16 + z / 4 :=
    toNat_ofNat_of_lt (by omega)
  have hc : (UInt8.ofNat (z % 4 * 64 + w)).toNat = z % 4 * 64 + w := toNat_ofNat_of_lt (by omega)
  have hx' : (x * 4 + y / 16) / 4 = x := by omega
  have hy' : (x * 4 + y / 16) % 4 * 16 + (y % 16 * 16 + z / 4) / 16 = y := by omega
  have hz' : (y % 16 * 16 + z / 4) % 16 * 4 + (z % 4 * 64 + w) / 64 = z := by omega
  have hw' : (z % 4 * 64 + w) % 64 = w := by omega
  rw [encodeChars, ha, hb, hc, hx', hy', hz', hw']

lemma encodeChars_two_digits (hx : x < 64) (hy : y < 64) (hspare : y % 16 = 0) :
    encodeChars [UInt8.ofNat (x * 4 + y / 16)] = [digit x, digit y, '=', '='] := by
  have ha : (UInt8.ofNat (x * 4 + y / 16)).toNat = x * 4 + y / 16 := toNat_ofNat_of_lt (by omega)
  have hx' : (x * 4 + y / 16) / 4 = x := by omega
  have hy' : (x * 4 + y / 16) % 4 * 16 = y := by omega
  rw [encodeChars, ha, hx', hy']

lemma encodeChars_three_digits (hx : x < 64) (hy : y < 64) (hz : z < 64) (hspare : z % 4 = 0) :
    encodeChars [UInt8.ofNat (x * 4 + y / 16), UInt8.ofNat (y % 16 * 16 + z / 4)] =
      [digit x, digit y, digit z, '='] := by
  have ha : (UInt8.ofNat (x * 4 + y / 16)).toNat = x * 4 + y / 16 := toNat_ofNat_of_lt (by omega)
  have hb : (UInt8.ofNat (y % 16 * 16 + z / 4)).toNat = y % 16 * 16 + z / 4 :=
    toNat_ofNat_of_lt (by omega)
  have hx' : (x * 4 + y / 16) / 4 = x := by omega
  have hy' : (x * 4 + y / 16) % 4 * 16 + (y % 16 * 16 + z / 4) / 16 = y := by omega
  have hz' : (y % 16 * 16 + z / 4) % 16 * 4 = z := by omega
  rw [encodeChars, ha, hb, hx', hy', hz']

/-- The induction takes a group of four digits at a time. -/
theorem exists_encodeChars : ∀ {ds : List Nat} {pad : Nat}, WellFormed ds pad →
    ∃ bs, text ds pad = encodeChars bs
  | [], pad, h => by
    have hpad := h.pad_lt
    have hgroups := h.groups
    obtain rfl : pad = 0 := by simp only [List.length_nil] at hgroups; omega
    exact ⟨[], rfl⟩
  | [_], pad, h => by
    have hpad := h.pad_lt
    have hgroups := h.groups
    simp only [List.length_singleton] at hgroups
    omega
  | [x, y], pad, h => by
    have hpad := h.pad_lt
    have hgroups := h.groups
    obtain rfl : pad = 2 := by simp only [List.length_cons, List.length_nil] at hgroups; omega
    have hspare : 16 ∣ 64 * (64 * 0 + x) + y := h.spare
    exact ⟨_, (encodeChars_two_digits (h.digit_lt x (by simp)) (h.digit_lt y (by simp))
      (by omega)).symm⟩
  | [x, y, z], pad, h => by
    have hpad := h.pad_lt
    have hgroups := h.groups
    obtain rfl : pad = 1 := by simp only [List.length_cons, List.length_nil] at hgroups; omega
    have hspare : 4 ∣ 64 * (64 * (64 * 0 + x) + y) + z := h.spare
    exact ⟨_, (encodeChars_three_digits (h.digit_lt x (by simp)) (h.digit_lt y (by simp))
      (h.digit_lt z (by simp)) (by omega)).symm⟩
  | x :: y :: z :: w :: ds, pad, h => by
    obtain ⟨⟨hx, hy, hz, hw⟩, hds⟩ := wellFormed_group_iff.1 h
    obtain ⟨bs, hbs⟩ := exists_encodeChars hds
    refine ⟨_, Eq.trans ?_ (encodeChars_group hx hy hz hw bs).symm⟩
    rw [← hbs]
    rfl

end Texts

/-! ### What is read -/

section Reading

variable {cs : List Char} {bs : Octets} {c : Char} {n : Nat}

lemma digitValue?_eq_some (h : digitValue? c = some n) : n < 64 ∧ c = digit n := by
  have hofNat : c = Char.ofNat c.toNat := (Char.ofNat_toNat c).symm
  unfold digitValue? at h
  dsimp only at h
  split at h
  · obtain rfl := Option.some.inj h
    rw [digit, if_pos (by omega), show 65 + (c.toNat - 65) = c.toNat by omega]
    exact ⟨by omega, hofNat⟩
  · split at h
    · obtain rfl := Option.some.inj h
      rw [digit, if_neg (by omega), if_pos (by omega), show 71 + (c.toNat - 71) = c.toNat by omega]
      exact ⟨by omega, hofNat⟩
    · split at h
      · obtain rfl := Option.some.inj h
        rw [digit, if_neg (by omega), if_neg (by omega), if_pos (by omega),
          show c.toNat + 4 - 4 = c.toNat by omega]
        exact ⟨by omega, hofNat⟩
      · split at h
        · obtain rfl := Option.some.inj h
          exact ⟨by omega, by assumption⟩
        · split at h
          · obtain rfl := Option.some.inj h
            exact ⟨by omega, by assumption⟩
          · cases h

/-- What is read keeps to the format.  The induction is that of the reader, whose cases are padding of two
characters, of one, and a whole group. -/
theorem exists_wellFormed (h : decodeChars? cs = some bs) :
    ∃ ds pad, WellFormed ds pad ∧ cs = text ds pad := by
  fun_induction decodeChars? cs generalizing bs with
  | case1 => exact ⟨[], 0, ⟨by simp, by omega, by simp, by simp⟩, rfl⟩
  | case2 a b =>
    obtain ⟨x, ha, h⟩ := Option.bind_eq_some_iff.1 h
    obtain ⟨y, hb, h⟩ := Option.bind_eq_some_iff.1 h
    obtain ⟨_, hguard, -⟩ := Option.bind_eq_some_iff.1 h
    obtain ⟨hx, rfl⟩ := digitValue?_eq_some ha
    obtain ⟨hy, rfl⟩ := digitValue?_eq_some hb
    have hspare : y % 16 = 0 := (Option.guard_eq_some' _).1 hguard
    refine ⟨[x, y], 2, ⟨by simp [hx, hy], by omega, ⟨1, rfl⟩, ?_⟩, rfl⟩
    change 16 ∣ 64 * (64 * 0 + x) + y
    omega
  | case3 a b c =>
    obtain ⟨x, ha, h⟩ := Option.bind_eq_some_iff.1 h
    obtain ⟨y, hb, h⟩ := Option.bind_eq_some_iff.1 h
    obtain ⟨z, hc, h⟩ := Option.bind_eq_some_iff.1 h
    obtain ⟨_, hguard, -⟩ := Option.bind_eq_some_iff.1 h
    obtain ⟨hx, rfl⟩ := digitValue?_eq_some ha
    obtain ⟨hy, rfl⟩ := digitValue?_eq_some hb
    obtain ⟨hz, rfl⟩ := digitValue?_eq_some hc
    have hspare : z % 4 = 0 := (Option.guard_eq_some' _).1 hguard
    refine ⟨[x, y, z], 1, ⟨by simp [hx, hy, hz], by omega, ⟨1, rfl⟩, ?_⟩, rfl⟩
    change 4 ∣ 64 * (64 * (64 * 0 + x) + y) + z
    omega
  | case4 a b c d rest hnot hnot' ih =>
    obtain ⟨x, ha, h⟩ := Option.bind_eq_some_iff.1 h
    obtain ⟨y, hb, h⟩ := Option.bind_eq_some_iff.1 h
    obtain ⟨z, hc, h⟩ := Option.bind_eq_some_iff.1 h
    obtain ⟨w, hd, h⟩ := Option.bind_eq_some_iff.1 h
    obtain ⟨more, hmore, -⟩ := Option.bind_eq_some_iff.1 h
    obtain ⟨hx, rfl⟩ := digitValue?_eq_some ha
    obtain ⟨hy, rfl⟩ := digitValue?_eq_some hb
    obtain ⟨hz, rfl⟩ := digitValue?_eq_some hc
    obtain ⟨hw, rfl⟩ := digitValue?_eq_some hd
    obtain ⟨ds, pad, hds, rfl⟩ := ih hmore
    exact ⟨_, pad, wellFormed_group_iff.2 ⟨⟨hx, hy, hz, hw⟩, hds⟩, rfl⟩
  | case5 => cases h

theorem decodeChars?_eq_some_iff : decodeChars? cs = some bs ↔ cs = encodeChars bs := by
  constructor
  · intro h
    obtain ⟨ds, pad, hds, rfl⟩ := exists_wellFormed h
    obtain ⟨bs', hbs'⟩ := exists_encodeChars hds
    rw [hbs', decodeChars?_encodeChars] at h
    rw [hbs', Option.some.inj h]
  · rintro rfl
    exact decodeChars?_encodeChars bs

end Reading

/-! ### Blanks -/

section Blanks

variable {s s' : String} {bs : Octets}

/-- Blanks that were put before the pieces of a text are removed, and the pieces stay. -/
lemma removeBlanks_spread {parts : List (List Char × List Char)}
    (hblank : ∀ p ∈ parts, ∀ c ∈ p.1, Text.isBlank c = true)
    (hkept : ∀ p ∈ parts, ∀ c ∈ p.2, Text.isBlank c = false) :
    Text.removeBlanks (parts.flatMap fun p => p.1 ++ p.2) = parts.flatMap (·.2) := by
  unfold Text.removeBlanks
  rw [List.filter_flatMap]
  refine List.flatMap_congr fun p hp => ?_
  have hgone : p.1.filter (!Text.isBlank ·) = [] :=
    List.filter_eq_nil_iff.2 fun c hc => by simp [hblank p hp c hc]
  have hstays : p.2.filter (!Text.isBlank ·) = p.2 :=
    List.filter_eq_self.2 fun c hc => by simp [hkept p hp c hc]
  rw [List.filter_append, hgone, hstays, List.nil_append]

theorem decode?_eq_some_iff :
    decode? s = some bs ↔ String.ofList (Text.removeBlanks s.toList) = encode bs := by
  rw [decode?, decodeChars?_eq_some_iff, encode, String.ofList_inj]

lemma decode?_isSome_iff :
    (decode? s).isSome = true ↔
      ∃ ds pad, WellFormed ds pad ∧ Text.removeBlanks s.toList = text ds pad := by
  rw [decode?, Option.isSome_iff_exists]
  constructor
  · rintro ⟨bs, h⟩
    exact exists_wellFormed h
  · rintro ⟨ds, pad, hds, htext⟩
    obtain ⟨bs, hbs⟩ := exists_encodeChars hds
    exact ⟨bs, decodeChars?_eq_some_iff.2 (htext.trans hbs)⟩

end Blanks

/-- **A field of octets accepts exactly the Base64 texts, with blanks anywhere.**  A text is read as the
octets `bs` just if, without its blanks, it is the text that is written for `bs`: the digits of their number,
in groups of four characters that padding fills up.  So whatever blanks are put before, between and after
pieces of what was written, it is read back; two texts with the same octets differ in blanks only; and a
text is refused exactly if, without its blanks, it is no groups of four digits of the alphabet, with at most
two characters of padding at the end and zeros in the bits that these leave over. -/
theorem accepts_exactly_encodings (s : String) (bs : Octets) :
    (∀ t : Tree, t.text? = some s → octetsOfTree? t = decode? s) ∧
    (decode? s = some bs ↔ String.ofList (Text.removeBlanks s.toList) = encode bs) ∧
    (∃ ds pad, Regroups bs ds pad ∧ encode bs = String.ofList (text ds pad)) ∧
    (∀ parts : List (List Char × List Char), (∀ p ∈ parts, ∀ c ∈ p.1, Text.isBlank c = true) →
      String.ofList (parts.flatMap (·.2)) = encode bs →
      decode? (String.ofList (parts.flatMap fun p => p.1 ++ p.2)) = some bs) ∧
    (∀ s', decode? s = some bs → decode? s' = some bs →
      Text.removeBlanks s.toList = Text.removeBlanks s'.toList) ∧
    (decode? s = none ↔
      ¬ ∃ ds pad, WellFormed ds pad ∧ Text.removeBlanks s.toList = text ds pad) := by
  refine ⟨?_, decode?_eq_some_iff, ?_, ?_, ?_, ?_⟩
  · intro t ht
    rw [octetsOfTree?, ht]
    rfl
  · obtain ⟨ds, pad, hds, htext⟩ := exists_regroups bs
    exact ⟨ds, pad, hds, congrArg String.ofList htext⟩
  · intro parts hblank hparts
    have hchars : parts.flatMap (·.2) = encodeChars bs := String.ofList_inj.1 hparts
    have hkept : ∀ p ∈ parts, ∀ c ∈ p.2, Text.isBlank c = false := fun p hp c hc =>
      isBlank_of_mem_encodeChars (hchars ▸ List.mem_flatMap.2 ⟨p, hp, hc⟩)
    rw [decode?_eq_some_iff, String.toList_ofList, removeBlanks_spread hblank hkept, hparts]
  · intro s' h h'
    rw [decode?_eq_some_iff] at h h'
    exact String.ofList_inj.1 (h.trans h'.symm)
  · rw [← decode?_isSome_iff, Option.not_isSome_iff_eq_none]

example : (List.range 64).map digit =
    "ABCDEFGHIJKLMNOPQRSTUVWXYZabcdefghijklmnopqrstuvwxyz0123456789+/".toList := by decide

end MetadataTrust.Base64
