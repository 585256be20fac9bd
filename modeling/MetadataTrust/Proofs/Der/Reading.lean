import MetadataTrust.Proofs.Der.Numbers

/-!
# Elements are read back

What `Der.encode` writes both readers read: the lenient one gives the parts of the identifier and the
content, the canonical one the content, and each leaves what follows.  The only condition is that the
length of the content fits in 64 bits.
-/

namespace MetadataTrust.Der

variable {n : Nat} {identifier : UInt8} {content rest key : Octets} {α : Type}

/-! ### Lengths -/

lemma width_le_eight (h : n < 2 ^ 64) : Octets.width n ≤ 8 := Octets.width_le h

lemma length_encodeLength_le (h : n < 2 ^ 64) : (encodeLength n).length ≤ 9 := by
  unfold encodeLength
  split
  · exact Nat.le_of_ble_eq_true rfl
  · have hwidth := width_le_eight h
    simp only [List.length_cons, Octets.length_ofNatMinimal]
    omega

/-- **A length is read back, in the short form and in the long one.** -/
lemma readLength?_encodeLength (h : n < 2 ^ 64) (rest : Octets) :
    readLength? (encodeLength n ++ rest) = some (n, rest) := by
  by_cases hshort : n < 128
  · have hb : (UInt8.ofNat n).toNat = n := by
      rw [UInt8.toNat_ofNat']
      omega
    simp [encodeLength, readLength?, hshort, hb]
  · have hwidth := width_le_eight h
    have hpos : Octets.width n ≠ 0 := by
      intro hzero
      have hlt := Octets.lt_pow_width n
      rw [hzero] at hlt
      omega
    have hb : (UInt8.ofNat (128 + Octets.width n)).toNat = 128 + Octets.width n := by
      rw [UInt8.toNat_ofNat']
      omega
    have hk : 128 + Octets.width n - 128 = Octets.width n := by omega
    have htake : (Octets.ofNatMinimal n ++ rest).take (Octets.width n) = Octets.ofNatMinimal n :=
      List.take_left' (Octets.length_ofNatMinimal n)
    have hdrop : (Octets.ofNatMinimal n ++ rest).drop (Octets.width n) = rest :=
      List.drop_left' (Octets.length_ofNatMinimal n)
    have hroom : ¬ (Octets.width n = 0 ∨ Octets.width n = 127 ∨
        (Octets.ofNatMinimal n ++ rest).length < Octets.width n) := by
      rw [List.length_append, Octets.length_ofNatMinimal]
      omega
    have hlong : ¬ 128 + Octets.width n < 128 := by omega
    have hfits : n < UInt64.size := h
    rw [encodeLength, if_neg hshort, List.cons_append, readLength?]
    simp only [hb, hk, if_neg hlong, if_neg hroom, htake, hdrop, Octets.toNat_ofNatMinimal, if_pos hfits]

/-! ### Elements -/

lemma encode_append (identifier : UInt8) (content rest : Octets) :
    encode identifier content ++ rest =
      identifier :: (encodeLength content.length ++ (content ++ rest)) := by
  simp [encode]

lemma length_encode_le (h : content.length < 2 ^ 64) :
    (encode identifier content).length ≤ content.length + 10 := by
  have hlength := length_encodeLength_le h
  simp only [encode, List.cons_append, List.length_cons, List.length_append]
  omega

/-- **The canonical reader gives the content back.** -/
lemma readCanonical?_encode (h : content.length < 2 ^ 64) (rest : Octets) :
    readCanonical? identifier (encode identifier content ++ rest) = some (content, rest) := by
  have hroom : ¬ ((content ++ rest).length < content.length ∨
      encodeLength content.length ++ (content ++ rest) ≠
        encodeLength content.length ++ (content ++ rest)) := by
    rw [List.length_append]
    rintro (hshort | hne)
    · omega
    · exact hne rfl
  rw [encode_append, readCanonical?, if_pos rfl, readLength?_encodeLength h]
  simp only [Option.bind_eq_bind, Option.bind_some, if_neg hroom, List.take_left, List.drop_left]

lemma readWhole?_encode (h : content.length < 2 ^ 64) :
    readWhole? identifier (encode identifier content) = some content := by
  have hread : readCanonical? identifier (encode identifier content ++ []) = some (content, []) :=
    readCanonical?_encode h []
  rw [List.append_nil] at hread
  rw [readWhole?, hread]

/-- **The lenient reader gives the parts of the identifier and the content.** -/
lemma read?_encode (htag : identifier.toNat % 32 ≠ 31) (h : content.length < 2 ^ 64)
    (rest : Octets) :
    read? (encode identifier content ++ rest) =
      some (⟨identifier.toNat / 64, identifier.toNat / 32 % 2 = 1, identifier.toNat % 32, content⟩,
        rest) := by
  have hroom : ¬ (content ++ rest).length < content.length := by
    rw [List.length_append]
    omega
  rw [encode_append, read?, readHeader?]
  simp only [if_neg htag, Option.bind_eq_bind, Option.bind_some, readLength?_encodeLength h,
    Option.pure_def, if_neg hroom, List.take_left, List.drop_left]

lemma readSequence?_encode {inner : Reader α} {a : α} {left : Octets}
    (h : content.length < 2 ^ 64) (hinner : inner content = some (a, left)) (rest : Octets) :
    readSequence? inner (encode 0x30 content ++ rest) = some (a, rest) := by
  rw [readSequence?, readInside?, read?_encode (by decide) h]
  simp [hinner]

lemma readObjectId?_encode (h : content.length < 2 ^ 64) (rest : Octets) :
    readObjectId? (encode 0x06 content ++ rest) = some (content, rest) := by
  rw [readObjectId?, read?_encode (by decide) h]
  simp

/-- A bit string with no unused bits. -/
lemma readBitString?_encode (h : (0 :: key).length < 2 ^ 64) (rest : Octets) :
    readBitString? (encode 0x03 (0 :: key) ++ rest) = some (key, rest) := by
  have hbits : bitStringBits? (0 :: key) = some key := by
    rw [bitStringBits?]
    cases hlast : key.getLast? with
    | none => rw [List.getLast?_eq_none_iff.1 hlast, if_pos rfl]
    | some last => exact if_pos ⟨by decide, Nat.mod_one _⟩
  rw [readBitString?, read?_encode (by decide) h]
  simp [hbits]

end MetadataTrust.Der
