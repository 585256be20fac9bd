import Mathlib.Data.List.Nodup
import MetadataTrust.Json.Parser
import MetadataTrust.Json.Printer

/-!
# Written JSON is read back

A value of objects, arrays and strings is read from its text as it was written, whatever its strings
hold, as long as the members of each object have different names.
-/

namespace MetadataTrust.Json

/-! ### Strings -/

lemma hexValue?_hexChar : ∀ n < 16, hexValue? (hexChar n) = some n := by decide

section Strings

variable {c : Char} {cs rest : List Char} {fuel : Nat}

lemma escape?_control (h : c.toNat < 32) :
    escape? ('u' :: '0' :: '0' :: hexChar (c.toNat / 16) :: hexChar (c.toNat % 16) :: rest) =
      some (c, rest) := by
  have hzero : hexValue? '0' = some 0 := by decide
  have hhigh := hexValue?_hexChar (c.toNat / 16) (by omega)
  have hlow := hexValue?_hexChar (c.toNat % 16) (by omega)
  have hhex : hex4? ('0' :: '0' :: hexChar (c.toNat / 16) :: hexChar (c.toNat % 16) :: rest) =
      some (c.toNat, rest) := by
    have hsum : ((0 * 16 + 0) * 16 + c.toNat / 16) * 16 + c.toNat % 16 = c.toNat := by omega
    simp only [hex4?, hzero, hhigh, hlow, hsum, Option.bind_eq_bind, Option.bind_some, Option.pure_def]
  have hplain : ¬ (0xD800 ≤ c.toNat ∧ c.toNat < 0xDC00) := by omega
  have hplain' : ¬ (0xDC00 ≤ c.toNat ∧ c.toNat < 0xE000) := by omega
  simp only [escape?, hhex, hplain, hplain', Option.bind_eq_bind, Option.bind_some, if_false,
    Char.ofNat_toNat]

lemma eq_of_toNat {n : Nat} (h : c.toNat = n) : Char.ofNat n = c := by
  rw [← h, Char.ofNat_toNat]

/-- An escaped character is read as that character. -/
lemma stringRest?_escapeChar (c : Char) (fuel : Nat) (rest : List Char) :
    stringRest? (fuel + 1) (escapeChar c ++ rest) =
      (stringRest? fuel rest).bind fun p => some (c :: p.1, p.2) := by
  unfold escapeChar
  split
  · subst_vars
    rfl
  split
  · subst_vars
    rfl
  split
  · subst_vars
    rfl
  split
  · subst_vars
    rfl
  split
  · subst_vars
    rfl
  split
  · rename_i h
    rw [← eq_of_toNat h]
    rfl
  split
  · rename_i h
    rw [← eq_of_toNat h]
    rfl
  split
  · rename_i h
    simp only [List.cons_append, List.nil_append]
    rw [stringRest?, escape?_control h]
    rfl
  · rename_i hquote hslash _ _ _ _ _ h
    simp only [List.cons_append, List.nil_append]
    rw [stringRest?]
    · simp [h]
    · exact hquote
    · exact hslash

lemma stringRest?_escaped (h : cs.length < fuel) :
    stringRest? fuel (cs.flatMap escapeChar ++ '"' :: rest) = some (cs, rest) := by
  induction cs generalizing fuel with
  | nil =>
    rw [List.length_nil] at h
    obtain ⟨f, rfl⟩ : ∃ f, fuel = f + 1 := ⟨fuel - 1, by omega⟩
    rfl
  | cons c cs ih =>
    obtain ⟨f, rfl⟩ : ∃ f, fuel = f + 1 := ⟨fuel - 1, by omega⟩
    rw [List.flatMap_cons, List.append_assoc, stringRest?_escapeChar,
      ih (Nat.lt_of_succ_lt_succ h)]
    rfl

end Strings

/-! ### Values -/

/-- Values of objects, arrays and strings; the members of an object have different names. -/
inductive Plain : Json → Prop
  | string (s : String) : Plain (.string s)
  | array {items : List Json} (h : ∀ x ∈ items, Plain x) : Plain (.array items)
  | object {members : List (String × Json)} (hnames : (members.map Prod.fst).Nodup)
      (h : ∀ m ∈ members, Plain m.2) : Plain (.object members)

/-- A value that is read back, given enough fuel, whatever follows it. -/
def ReadBack (x : Json) : Prop :=
  ∀ fuel rest, x.chars.length ≤ fuel → value? fuel (x.chars ++ rest) = some (x, rest)

variable {items : List Json} {members : List (String × Json)} {rest : List Char} {fuel : Nat}

lemma stringRest?_stringChars (s : String) (rest : List Char) :
    stringRest? ((s.toList.flatMap escapeChar ++ '"' :: rest).length + 1)
      (s.toList.flatMap escapeChar ++ '"' :: rest) = some (s.toList, rest) := by
  have hone : ∀ c, 1 ≤ (escapeChar c).length := by
    intro c
    unfold escapeChar
    repeat' split
    all_goals exact Nat.succ_le_succ (Nat.zero_le _)
  have hlength : ∀ cs : List Char, cs.length ≤ (cs.flatMap escapeChar).length := by
    intro cs
    induction cs with
    | nil => exact Nat.le_refl _
    | cons c cs ih =>
      have := hone c
      rw [List.flatMap_cons, List.length_append, List.length_cons]
      omega
  have := hlength s.toList
  exact stringRest?_escaped (by rw [List.length_append]; omega)

/-- How the text of a value begins. -/
lemma Plain.chars_head {x : Json} (h : x.Plain) :
    ∃ c more, x.chars = c :: more ∧ (c = '"' ∨ c = '[' ∨ c = '\x7b') := by
  cases h with
  | string s => exact ⟨_, _, by rw [chars, stringChars]; rfl, .inl rfl⟩
  | array => exact ⟨_, _, by rw [chars]; rfl, .inr (.inl rfl)⟩
  | object => exact ⟨_, _, by rw [chars]; rfl, .inr (.inr rfl)⟩

lemma readBack_string (s : String) : ReadBack (.string s) := by
  intro fuel rest hfuel
  rw [chars, stringChars] at hfuel ⊢
  simp only [List.length_append, List.length_cons, List.length_nil] at hfuel
  obtain ⟨f, rfl⟩ : ∃ f, fuel = f + 1 := ⟨fuel - 1, by omega⟩
  have hstring := stringRest?_stringChars s rest
  have hskip : skipBlanks ('"' :: (s.toList.flatMap escapeChar ++ '"' :: rest)) =
      '"' :: (s.toList.flatMap escapeChar ++ '"' :: rest) := rfl
  simp only [List.cons_append, List.append_assoc, List.nil_append]
  rw [value?, hskip]
  simp only [hstring, Option.bind_eq_bind, Option.bind_some, Option.pure_def, String.ofList_toList]

lemma items?_itemChars (hne : items ≠ []) (h : ∀ x ∈ items, ReadBack x)
    (hfuel : (itemChars items).length < fuel) :
    items? fuel (itemChars items ++ ']' :: rest) = some (items, rest) := by
  induction items generalizing fuel with
  | nil => exact absurd rfl hne
  | cons x items ih =>
    obtain ⟨hx, hitems⟩ := List.forall_mem_cons.1 h
    obtain ⟨f, rfl⟩ : ∃ f, fuel = f + 1 := ⟨fuel - 1, by omega⟩
    cases items with
    | nil =>
      rw [itemChars] at hfuel ⊢
      have hread := hx f (']' :: rest) (Nat.le_of_lt_succ hfuel)
      have hskip : skipBlanks (']' :: rest) = ']' :: rest := rfl
      rw [items?, hread]
      simp only [Option.bind_eq_bind, Option.bind_some, hskip, Option.pure_def]
    | cons y items =>
      rw [itemChars, List.length_append, List.length_cons] at hfuel
      have hread := hx f (',' :: (itemChars (y :: items) ++ ']' :: rest)) (by omega)
      have hmore : items? f (itemChars (y :: items) ++ ']' :: rest) = some (y :: items, rest) :=
        ih (by simp) hitems (by omega)
      have hskip : skipBlanks (',' :: (itemChars (y :: items) ++ ']' :: rest)) =
          ',' :: (itemChars (y :: items) ++ ']' :: rest) := rfl
      rw [itemChars, List.append_assoc, List.cons_append, items?, hread]
      simp only [Option.bind_eq_bind, Option.bind_some, hskip, hmore, Option.pure_def]

lemma readBack_array (hplain : ∀ x ∈ items, Plain x) (h : ∀ x ∈ items, ReadBack x) :
    ReadBack (.array items) := by
  intro fuel rest hfuel
  rw [chars] at hfuel ⊢
  simp only [List.length_append, List.length_cons, List.length_nil] at hfuel
  obtain ⟨f, rfl⟩ : ∃ f, fuel = f + 1 := ⟨fuel - 1, by omega⟩
  have hskip : skipBlanks ('[' :: (itemChars items ++ ']' :: rest)) =
      '[' :: (itemChars items ++ ']' :: rest) := rfl
  simp only [List.cons_append, List.append_assoc, List.nil_append]
  rw [value?, hskip]
  cases items with
  | nil => rfl
  | cons x items =>
    have hitems : items? f (itemChars (x :: items) ++ ']' :: rest) = some (x :: items, rest) :=
      items?_itemChars (List.cons_ne_nil x items) h (by omega)
    obtain ⟨c, more, hc, hcases⟩ := (hplain x List.mem_cons_self).chars_head
    have hhead : ∃ more', itemChars (x :: items) ++ ']' :: rest = c :: more' := by
      cases items with
      | nil => exact ⟨_, by rw [itemChars, hc]; rfl⟩
      | cons y items => exact ⟨_, by rw [itemChars, hc]; rfl⟩
    obtain ⟨more', hmore'⟩ := hhead
    rw [hmore'] at hitems ⊢
    have hskip' : skipBlanks (c :: more') = c :: more' := by
      rcases hcases with rfl | rfl | rfl <;> rfl
    rcases hcases with rfl | rfl | rfl <;> simp [hskip', hitems]

lemma setMember_of_not_mem {name : String} {x : Json} (h : name ∉ members.map Prod.fst) :
    setMember name x members = members ++ [(name, x)] := by
  induction members with
  | nil => rfl
  | cons m members ih =>
    obtain ⟨k, v⟩ := m
    rw [List.map_cons, List.mem_cons, not_or] at h
    rw [setMember, if_neg (Ne.symm h.1), ih h.2, List.cons_append]

lemma members?_memberChars {before : List (String × Json)} (hne : members ≠ [])
    (h : ∀ m ∈ members, ReadBack m.2) (hnames : ((before ++ members).map Prod.fst).Nodup)
    (hfuel : (memberChars members).length < fuel) :
    members? fuel before (memberChars members ++ '\x7d' :: rest) = some (before ++ members, rest) := by
  induction members generalizing fuel before with
  | nil => exact absurd rfl hne
  | cons m members ih =>
    obtain ⟨name, x⟩ := m
    have hx : ReadBack x := h _ List.mem_cons_self
    have hmembers : ∀ m ∈ members, ReadBack m.2 := fun m hm => h m (List.mem_cons_of_mem _ hm)
    obtain ⟨f, rfl⟩ : ∃ f, fuel = f + 1 := ⟨fuel - 1, by omega⟩
    have hsplit : before ++ (name, x) :: members = (before ++ [(name, x)]) ++ members := by simp
    have hset : setMember name x before = before ++ [(name, x)] := by
      refine setMember_of_not_mem fun hmem => ?_
      rw [List.map_append, List.map_cons] at hnames
      exact (List.nodup_append.1 hnames).2.2 _ hmem _ List.mem_cons_self rfl
    have hstart : ∀ tail : List Char, skipBlanks ('"' :: tail) = '"' :: tail := fun _ => rfl
    have hcolon : ∀ tail : List Char, skipBlanks (':' :: tail) = ':' :: tail := fun _ => rfl
    cases members with
    | nil =>
      rw [memberChars, stringChars] at hfuel ⊢
      simp only [List.length_append, List.length_cons, List.length_nil] at hfuel
      have hread := hx f ('\x7d' :: rest) (by omega)
      have hskip : skipBlanks ('\x7d' :: rest) = '\x7d' :: rest := rfl
      have hstring := stringRest?_stringChars name (':' :: (x.chars ++ '\x7d' :: rest))
      simp only [List.cons_append, List.append_assoc, List.nil_append]
      rw [members?, hstart]
      simp only [hstring, Option.bind_eq_bind, Option.bind_some, hcolon, hread, hskip, Option.pure_def,
        String.ofList_toList, hset]
    | cons n members =>
      rw [memberChars, stringChars] at hfuel ⊢
      simp only [List.length_append, List.length_cons, List.length_nil] at hfuel
      have hread := hx f (',' :: (memberChars (n :: members) ++ '\x7d' :: rest)) (by omega)
      have hmore : members? f (before ++ [(name, x)])
          (memberChars (n :: members) ++ '\x7d' :: rest) =
          some (before ++ [(name, x)] ++ n :: members, rest) :=
        ih (by simp) hmembers (hsplit ▸ hnames) (by omega)
      have hskip : skipBlanks (',' :: (memberChars (n :: members) ++ '\x7d' :: rest)) =
          ',' :: (memberChars (n :: members) ++ '\x7d' :: rest) := rfl
      have hstring := stringRest?_stringChars name
        (':' :: (x.chars ++ ',' :: (memberChars (n :: members) ++ '\x7d' :: rest)))
      simp only [List.cons_append, List.append_assoc, List.nil_append]
      rw [members?, hstart]
      simp only [hstring, Option.bind_eq_bind, Option.bind_some, hcolon, hread, hskip,
        String.ofList_toList, hset, hmore, hsplit]

lemma readBack_object (hnames : (members.map Prod.fst).Nodup) (h : ∀ m ∈ members, ReadBack m.2) :
    ReadBack (.object members) := by
  intro fuel rest hfuel
  rw [chars] at hfuel ⊢
  simp only [List.length_append, List.length_cons, List.length_nil] at hfuel
  obtain ⟨f, rfl⟩ : ∃ f, fuel = f + 1 := ⟨fuel - 1, by omega⟩
  have hskip : skipBlanks ('\x7b' :: (memberChars members ++ '\x7d' :: rest)) =
      '\x7b' :: (memberChars members ++ '\x7d' :: rest) := rfl
  simp only [List.cons_append, List.append_assoc, List.nil_append]
  rw [value?, hskip]
  cases members with
  | nil => rfl
  | cons m members =>
    have hmembers : members? f [] (memberChars (m :: members) ++ '\x7d' :: rest) =
        some (m :: members, rest) :=
      members?_memberChars (List.cons_ne_nil m members) h hnames (by omega)
    have hhead : ∃ more, memberChars (m :: members) ++ '\x7d' :: rest = '"' :: more := by
      obtain ⟨k, x⟩ := m
      cases members with
      | nil => exact ⟨_, by rw [memberChars, stringChars]; rfl⟩
      | cons n members => exact ⟨_, by rw [memberChars, stringChars]; rfl⟩
    obtain ⟨more, hmore⟩ := hhead
    rw [hmore] at hmembers ⊢
    have hskip' : skipBlanks ('"' :: more) = '"' :: more := rfl
    simp [hskip', hmembers]

theorem Plain.readBack {x : Json} (h : x.Plain) : ReadBack x := by
  induction h with
  | string s => exact readBack_string s
  | array h ih => exact readBack_array h ih
  | object hnames _ ih => exact readBack_object hnames ih

/-- **A text that was written is read as the value that it was written for.** -/
theorem Plain.parse?_render {x : Json} (h : x.Plain) : parse? x.render = some x := by
  have hread := h.readBack (x.chars.length + 1) [] (Nat.le_succ _)
  rw [List.append_nil] at hread
  have hskip : skipBlanks [] = [] := rfl
  simp only [parse?, render, String.toList_ofList, hread, hskip, if_true]

end MetadataTrust.Json
