import Mathlib.Data.List.TakeWhile
import Mathlib.Logic.Relation
import MetadataTrust.Script.Engine

/-!
# The lines of a script

Each line of a script counts for itself: the expressions of two scripts, one below the other, are those of
the first and then those of the second (`expressions_append`).  Lines that are blank or start with `#`,
blanks around an expression and carriage returns make no difference, wherever they are put in
(`expressions_eq_of_inserts`).
-/

namespace MetadataTrust

namespace Text

variable {w l : List Char}

/-! ### Blanks at the ends -/

lemma trimChars_blanks_append (hw : ∀ c ∈ w, isBlank c = true) :
    trimChars (w ++ l) = trimChars l := by
  unfold trimChars
  rw [List.dropWhile_append_of_pos hw]

lemma trimChars_append_blanks (hw : ∀ c ∈ w, isBlank c = true) :
    trimChars (l ++ w) = trimChars l := by
  unfold trimChars
  rw [List.dropWhile_append]
  split
  · rename_i hl
    rw [List.isEmpty_iff.1 hl, List.dropWhile_eq_nil_iff.2 hw]
  · have hreverse : ∀ c ∈ w.reverse, isBlank c = true := fun c hc => hw c (List.mem_reverse.1 hc)
    rw [List.reverse_append, List.dropWhile_append_of_pos hreverse]

/-! ### One line after another -/

/-- A character that does not end a line is put before the first line. -/
lemma lines_cons {c : Char} {cs : List Char} (hc : c ≠ '\n') (hr : c = '\r' → cs.head? ≠ some '\n') :
    lines (c :: cs) = (c :: (lines cs).head?.getD []) :: (lines cs).tail := by
  rw [lines.eq_4 c cs hc (by rintro rest hcr rfl; exact hr hcr rfl)]
  cases lines cs <;> rfl

/-- A text without line feeds is one line, unless it is empty. -/
lemma lines_of_notMem (hl : '\n' ∉ l) : lines l = if l = [] then [] else [l] := by
  induction l with
  | nil => rfl
  | cons c l ih =>
    obtain ⟨hc, hl⟩ := not_or.1 (mt List.mem_cons.2 hl)
    have hhead : l.head? ≠ some '\n' := fun h => hl (List.mem_of_head? h)
    rw [lines_cons (Ne.symm hc) fun _ => hhead, ih hl]
    cases l <;> rfl

/-- What stands before the first line feed is the first line; a carriage return at its end may be
missing. -/
lemma lines_append_cons (hl : '\n' ∉ l) (rest : List Char) :
    ∃ line, lines (l ++ '\n' :: rest) = line :: lines rest ∧ (l = line ∨ l = line ++ ['\r']) := by
  induction l with
  | nil => exact ⟨[], rfl, .inl rfl⟩
  | cons c l ih =>
    obtain ⟨hc, hl⟩ := not_or.1 (mt List.mem_cons.2 hl)
    by_cases hreturn : c = '\r' ∧ l = []
    · obtain ⟨rfl, rfl⟩ := hreturn
      exact ⟨[], rfl, .inr rfl⟩
    · have hhead : c = '\r' → (l ++ '\n' :: rest).head? ≠ some '\n' := by
        intro hcr h
        rcases l with _ | ⟨d, l⟩
        · exact hreturn ⟨hcr, rfl⟩
        · exact hl (List.mem_of_head? (l := d :: l) h)
      obtain ⟨line, hlines, hline⟩ := ih hl
      refine ⟨c :: line, ?_, hline.imp (congrArg (c :: ·)) (congrArg (c :: ·))⟩
      rw [List.cons_append, lines_cons (Ne.symm hc) hhead, hlines]
      rfl

end Text

/-- A property of texts follows line by line. -/
theorem lines_induction {P : List Char → Prop} (last : ∀ l, '\n' ∉ l → P l)
    (line : ∀ l rest, '\n' ∉ l → P rest → P (l ++ '\n' :: rest)) (cs : List Char) : P cs := by
  by_cases h : '\n' ∈ cs
  · obtain ⟨l, rest, rfl, hl⟩ := List.eq_append_cons_of_mem h
    exact line l rest hl (lines_induction last line rest)
  · exact last cs h
termination_by cs.length
decreasing_by
  rename_i hcs
  simp [hcs]
  omega

/-! ### The expressions on the lines -/

/-- The expression on a line, if the line counts. -/
def expressionOf? (line : List Char) : Option String :=
  match Text.trimChars line with
  | [] => none
  | c :: cs => if c = '#' then none else some (String.ofList (c :: cs))

/-- The expressions on the lines of a text. -/
def expressionsOf (cs : List Char) : List String := (Text.lines cs).filterMap expressionOf?

lemma expressions_eq (s : String) : expressions s = expressionsOf s.toList := by
  unfold expressions expressionsOf
  induction Text.lines s.toList with
  | nil => rfl
  | cons line more ih =>
    rw [List.map_cons, List.filter_cons, List.filterMap_cons, ← ih]
    unfold expressionOf?
    cases Text.trimChars line with
    | nil => rfl
    | cons c cs =>
      by_cases hc : c = '#'
      · simp [hc]
      · simp [hc]

section Expressions

variable {w l a b : List Char}

lemma expressionOf?_congr {line : List Char} (h : Text.trimChars l = Text.trimChars line) :
    expressionOf? l = expressionOf? line := by
  unfold expressionOf?
  rw [h]

lemma expressionsOf_last (hl : '\n' ∉ l) : expressionsOf l = (expressionOf? l).toList := by
  unfold expressionsOf
  rw [Text.lines_of_notMem hl]
  split
  · rename_i h
    rw [h]
    rfl
  · rw [List.filterMap_cons]
    cases expressionOf? l <;> rfl

lemma expressionsOf_line (hl : '\n' ∉ l) (rest : List Char) :
    expressionsOf (l ++ '\n' :: rest) = (expressionOf? l).toList ++ expressionsOf rest := by
  obtain ⟨line, hlines, hline⟩ := Text.lines_append_cons hl rest
  have hsame : expressionOf? l = expressionOf? line := by
    rcases hline with rfl | rfl
    · rfl
    · exact expressionOf?_congr (Text.trimChars_append_blanks (List.forall_mem_singleton.2 rfl))
  unfold expressionsOf
  rw [hlines, List.filterMap_cons, hsame]
  cases expressionOf? line <;> rfl

/-- The expressions before a line feed come before those after it. -/
lemma expressionsOf_append (a b : List Char) :
    expressionsOf (a ++ '\n' :: b) = expressionsOf a ++ expressionsOf b := by
  induction a using lines_induction with
  | last l hl => rw [expressionsOf_line hl, expressionsOf_last hl]
  | line l rest hl ih =>
    rw [List.append_assoc, List.cons_append, expressionsOf_line hl, expressionsOf_line hl, ih,
      List.append_assoc]

lemma expressionsOf_blank_cons {c : Char} (hc : Text.isBlank c = true) (b : List Char) :
    expressionsOf (c :: b) = expressionsOf b := by
  by_cases hfeed : c = '\n'
  · subst hfeed
    exact expressionsOf_append [] b
  · have htrim (l : List Char) : expressionOf? (c :: l) = expressionOf? l :=
      expressionOf?_congr (Text.trimChars_blanks_append (w := [c]) (by simpa using hc))
    have hnot {l : List Char} (hl : '\n' ∉ l) : '\n' ∉ c :: l := by
      simpa [hl] using Ne.symm hfeed
    induction b using lines_induction with
    | last l hl => rw [expressionsOf_last (hnot hl), expressionsOf_last hl, htrim]
    | line l rest hl =>
      rw [← List.cons_append, expressionsOf_line (hnot hl), expressionsOf_line hl, htrim]

lemma expressionsOf_append_blank {c : Char} (hc : Text.isBlank c = true) (a : List Char) :
    expressionsOf (a ++ [c]) = expressionsOf a := by
  by_cases hfeed : c = '\n'
  · subst hfeed
    exact (expressionsOf_append a []).trans (List.append_nil _)
  · induction a using lines_induction with
    | last l hl =>
      have hnot : '\n' ∉ l ++ [c] := by simpa [hl] using Ne.symm hfeed
      rw [expressionsOf_last hnot, expressionsOf_last hl,
        expressionOf?_congr (Text.trimChars_append_blanks (by simpa using hc))]
    | line l rest hl ih =>
      rw [List.append_assoc, List.cons_append, expressionsOf_line hl, expressionsOf_line hl, ih]

lemma expressionsOf_blanks_append (hw : ∀ c ∈ w, Text.isBlank c = true) (b : List Char) :
    expressionsOf (w ++ b) = expressionsOf b := by
  induction w with
  | nil => rfl
  | cons c w ih =>
    obtain ⟨hc, hw⟩ := List.forall_mem_cons.1 hw
    rw [List.cons_append, expressionsOf_blank_cons hc, ih hw]

lemma expressionsOf_append_blanks (hw : ∀ c ∈ w, Text.isBlank c = true) (a : List Char) :
    expressionsOf (a ++ w) = expressionsOf a := by
  induction w generalizing a with
  | nil => rw [List.append_nil]
  | cons c w ih =>
    obtain ⟨hc, hw⟩ := List.forall_mem_cons.1 hw
    rw [List.append_cons, ih hw, expressionsOf_append_blank hc]

lemma expressionOf?_comment (l : List Char) : expressionOf? ('#' :: l) = none := by
  have htrim : ∃ rest, Text.trimChars ('#' :: l) = '#' :: rest := by
    unfold Text.trimChars
    rw [List.dropWhile_cons_of_neg (by decide), List.reverse_cons, List.dropWhile_append]
    split
    · exact ⟨[], rfl⟩
    · exact ⟨_, List.reverse_append⟩
  obtain ⟨rest, hrest⟩ := htrim
  unfold expressionOf?
  rw [hrest]
  rfl

end Expressions

/-! ### Scripts -/

section Scripts

variable {s t : String}

/-- **The expressions of two scripts, one below the other, are those of both in turn.** -/
theorem expressions_append (s t : String) :
    expressions (s ++ "\n" ++ t) = expressions s ++ expressions t := by
  have htext : (s ++ "\n" ++ t).toList = s.toList ++ '\n' :: t.toList := by simp
  rw [expressions_eq, htext, expressionsOf_append, ← expressions_eq, ← expressions_eq]

lemma forall_isBlank_of_isBlankText (h : Text.isBlankText s = true) :
    ∀ c ∈ s.toList, Text.isBlank c = true := List.all_eq_true.1 h

lemma expressions_blanks_append (h : Text.isBlankText s = true) (t : String) :
    expressions (s ++ t) = expressions t := by
  rw [expressions_eq, String.toList_append,
    expressionsOf_blanks_append (forall_isBlank_of_isBlankText h), ← expressions_eq]

lemma expressions_append_blanks (s : String) (h : Text.isBlankText t = true) :
    expressions (s ++ t) = expressions s := by
  rw [expressions_eq, String.toList_append,
    expressionsOf_append_blanks (forall_isBlank_of_isBlankText h), ← expressions_eq]

lemma expressions_blanks (h : Text.isBlankText s = true) : expressions s = [] := by
  rw [← String.append_empty (s := s), expressions_blanks_append h]
  rfl

/-- A line that does not count: it is blank, or its first character that is not is `#`. -/
inductive Uncounted : String → Prop
  | blank {line : String} (h : Text.isBlankText line = true) : Uncounted line
  | comment {blanks comment : String} (hblanks : Text.isBlankText blanks = true)
    (h : '\n' ∉ comment.toList) : Uncounted (blanks ++ "#" ++ comment)

lemma Uncounted.expressions_eq_nil {line : String} (h : Uncounted line) : expressions line = [] := by
  cases h with
  | blank h => exact expressions_blanks h
  | @comment blanks comment hblanks h =>
    have htext : ("#" ++ comment).toList = '#' :: comment.toList := by simp
    have hline : '\n' ∉ '#' :: comment.toList := by simpa using h
    rw [String.append_assoc, expressions_blanks_append hblanks, expressions_eq, htext,
      expressionsOf_last hline, expressionOf?_comment]
    rfl

/-- A text after which a line starts, up to blanks. -/
def OpensLine (before : String) : Prop :=
  ∃ lines blanks, before = lines ++ blanks ∧ Text.isBlankText blanks = true ∧
    (lines = "" ∨ ∃ text, lines = text ++ "\n")

/-- A text before which a line ends, up to blanks. -/
def ClosesLine (after : String) : Prop :=
  ∃ blanks lines, after = blanks ++ lines ∧ Text.isBlankText blanks = true ∧
    (lines = "" ∨ ∃ text, lines = "\n" ++ text)

lemma expressions_append_of_opensLine {before : String} (h : OpensLine before) (t : String) :
    expressions (before ++ t) = expressions before ++ expressions t := by
  obtain ⟨_, blanks, rfl, hblanks, rfl | ⟨text, rfl⟩⟩ := h
  · rw [String.empty_append, expressions_blanks_append hblanks, expressions_blanks hblanks,
      List.nil_append]
  · rw [String.append_assoc, expressions_append, expressions_append, expressions_blanks_append hblanks,
      expressions_blanks hblanks, List.append_nil]

lemma expressions_append_of_closesLine {after : String} (s : String) (h : ClosesLine after) :
    expressions (s ++ after) = expressions s ++ expressions after := by
  obtain ⟨blanks, _, rfl, hblanks, rfl | ⟨text, rfl⟩⟩ := h
  · rw [String.append_empty, expressions_append_blanks _ hblanks, expressions_blanks hblanks,
      List.append_nil]
  · rw [← String.append_assoc, ← String.append_assoc, ← String.append_assoc, expressions_append,
      expressions_append, expressions_append_blanks _ hblanks, expressions_blanks hblanks,
      List.nil_append]

/-- The second script is the first one with something put in that does not count: a line above another
one or below all of them, blanks where a line starts or ends, or a carriage return before a line feed. -/
inductive Inserts : String → String → Prop
  | line {before line : String} (hbefore : OpensLine before) (hline : Uncounted line) (after : String) :
    Inserts (before ++ after) (before ++ line ++ "\n" ++ after)
  | lastLine {line : String} (before : String) (hline : Uncounted line) :
    Inserts before (before ++ "\n" ++ line)
  | blanks {before blanks after : String} (hblanks : Text.isBlankText blanks = true)
    (hplace : OpensLine before ∨ ClosesLine after) :
    Inserts (before ++ after) (before ++ blanks ++ after)
  | carriageReturn (before after : String) :
    Inserts (before ++ "\n" ++ after) (before ++ "\r\n" ++ after)

lemma Inserts.expressions_eq (h : Inserts s t) : expressions t = expressions s := by
  cases h with
  | line hbefore hline after =>
    rw [String.append_assoc, String.append_assoc, expressions_append_of_opensLine hbefore,
      ← String.append_assoc, expressions_append, hline.expressions_eq_nil, List.nil_append,
      expressions_append_of_opensLine hbefore]
  | lastLine before hline => rw [expressions_append, hline.expressions_eq_nil, List.append_nil]
  | @blanks before blanks after hblanks hplace =>
    rcases hplace with hbefore | hafter
    · rw [String.append_assoc, expressions_append_of_opensLine hbefore,
        expressions_blanks_append hblanks, expressions_append_of_opensLine hbefore]
    · rw [expressions_append_of_closesLine _ hafter, expressions_append_blanks _ hblanks,
        expressions_append_of_closesLine _ hafter]
  | carriageReturn before after =>
    have hend : "\r\n" = "\r" ++ "\n" := rfl
    rw [hend, ← String.append_assoc, expressions_append, expressions_append_blanks _ (by decide), expressions_append]

/-- **What does not count makes no difference**, however often it is put in. -/
theorem expressions_eq_of_inserts (h : Relation.ReflTransGen Inserts s t) :
    expressions t = expressions s := by
  induction h with
  | refl => rfl
  | tail _ hlast ih => rw [hlast.expressions_eq, ih]

example : expressions "# operators\r\n\r\n  $.a \r\n$.b" = expressions "$.a\n$.b" := by decide

/-- Scripts with the same lines have the same expressions, in whatever order and however often. -/
lemma mem_expressions_congr
    (h : ∀ line, line ∈ Text.lines s.toList ↔ line ∈ Text.lines t.toList) (x : String) :
    x ∈ expressions s ↔ x ∈ expressions t := by
  simp only [expressions_eq, expressionsOf, List.mem_filterMap, h]

end Scripts

end MetadataTrust
