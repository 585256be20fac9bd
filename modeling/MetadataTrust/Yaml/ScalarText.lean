import MetadataTrust.Yaml.Place

/-!
Reading the text of scalars: plain, quoted, and block scalars.

Where the text goes on over several lines, the blanks around the line breaks are dropped, and the breaks
are folded: one becomes a space, and of several the first is dropped.
-/

namespace MetadataTrust.Yaml

/-- What stands between two runs of characters of a scalar. -/
inductive Gap where
  | blanks (cs : List Char)
  /-- Line breaks: the first, unless it was escaped, and the others. -/
  | breaks (first : Option Char) (others : List Char)
deriving Repr

namespace Gap

/-- What the gap contributes to the text. -/
def text : Gap → List Char
  | .blanks cs => cs
  | .breaks none others => others
  | .breaks (some first) others =>
    if first = '\n' then (if others.isEmpty then [' '] else others) else first :: others

/-- Whether the gap goes over the end of a line. -/
def isMultiline : Gap → Bool
  | .blanks _ => false
  | .breaks .. => true

/-- The gap with one more character, a blank or a line break. -/
def add (c : Char) : Gap → Gap
  | .blanks cs => if isBreak c then .breaks (some c) [] else .blanks (cs ++ [c])
  | .breaks first others =>
    if isBreak c then .breaks first (others ++ [c]) else .breaks first others

end Gap

/-- Reads a gap.  A tab may not stand before the column `indent` once a line has ended. -/
def gap? (indent : Int) : Nat → Gap → Place → Option (Gap × Place)
  | 0, g, p => some (g, p)
  | fuel + 1, g, p =>
    match p.rest with
    | c :: _ =>
      if isBlank c || isBreak c then
        if c = '\t' ∧ g.isMultiline ∧ (p.column : Int) < indent then none
        else gap? indent fuel (g.add c) p.next
      else some (g, p)
    | [] => some (g, p)

/-! ### Plain scalars -/

/-- Characters that end a plain scalar inside brackets or braces. -/
def isFlowMark (c : Char) : Bool := c ∈ [',', '[', ']', '\x7b', '\x7d']

/-- A run of characters without blanks.  A colon ends it before a blank; inside brackets it must not
stand right before a mark. -/
def plainRun? (flow : Bool) : Nat → Place → Option (List Char × Place)
  | 0, p => some ([], p)
  | fuel + 1, p =>
    match p.rest with
    | [] => some ([], p)
    | c :: rest =>
      if isBlank c || isBreak c then some ([], p)
      else if flow && c == ':' && rest.head?.any fun d => isFlowMark d || d == '?' then none
      else if (c == ':' && atBlankOrEnd rest) || (flow && isFlowMark c) then some ([], p)
      else do
        let (cs, p) ← plainRun? flow fuel p.next
        return (c :: cs, p)

/-- A plain scalar whose continuation lines must reach the column `indent`, after the text `before` and
a gap.  Tells also whether the scalar was followed by the end of a line. -/
def plainFrom? (flow : Bool) (indent : Int) :
    Nat → List Char → Gap → Place → Option (List Char × Bool × Place)
  | 0, before, g, p => some (before, g.isMultiline, p)
  | fuel + 1, before, g, p =>
    if p.atDocumentMark || p.rest.head? == some '#' then some (before, g.isMultiline, p)
    else do
      let (run, p) ← plainRun? flow (p.rest.length + 1) p
      if run.isEmpty then return (before, g.isMultiline, p)
      let text := before ++ g.text ++ run
      let (g, p) ← gap? indent (p.rest.length + 1) (.blanks []) p
      if !flow && decide ((p.column : Int) < indent) then return (text, g.isMultiline, p)
      plainFrom? flow indent fuel text g p

/-- A plain scalar. -/
def plain? (flow : Bool) (indent : Int) (p : Place) : Option (List Char × Bool × Place) :=
  plainFrom? flow indent (p.rest.length + 1) [] (.blanks []) p

/-! ### Quoted scalars -/

/-- The character with a code, if it is one. -/
def charOfCode? (n : Nat) : Option Char :=
  if n < 0xD800 ∨ (0xDFFF < n ∧ n ≤ 0x10FFFF) then some (Char.ofNat n) else none

/-- The value of a hexadecimal digit. -/
def hexDigit? (c : Char) : Option Nat :=
  let n := c.toNat
  if 48 ≤ n ∧ n ≤ 57 then some (n - 48)
  else if 97 ≤ n ∧ n ≤ 102 then some (n - 87)
  else if 65 ≤ n ∧ n ≤ 70 then some (n - 55)
  else none

/-- The value of hexadecimal digits. -/
def hexValue? (cs : List Char) : Option Nat :=
  cs.foldlM (fun n c => do return n * 16 + (← hexDigit? c)) 0

/-- The characters that stand for others after a backslash. -/
def escapes : List (Char × Nat) :=
  [('0', 0), ('a', 7), ('b', 8), ('t', 9), ('\t', 9), ('n', 10), ('v', 11), ('f', 12), ('r', 13),
    ('e', 0x1B), (' ', 0x20), ('"', 0x22), ('/', 0x2F), ('\\', 0x5C), ('N', 0x85), ('_', 0xA0),
    ('L', 0x2028), ('P', 0x2029)]

/-- The character of an escape, and the number of characters after the backslash that it takes. -/
def escape? : List Char → Option (Char × Nat)
  | [] => none
  | c :: rest =>
    match escapes.find? (·.1 = c) with
    | some (_, n) => some (Char.ofNat n, 1)
    | none => do
      let digits ← if c = 'x' then some 2 else if c = 'u' then some 4
        else if c = 'U' then some 8 else none
      let cs := rest.take digits
      if cs.length ≠ digits then none
      return (← charOfCode? (← hexValue? cs), digits + 1)

/-- A run of characters without unescaped blanks inside quotes, and the gap that an escaped line end
starts after it. -/
def quotedRun? (double : Bool) : Nat → Place → Option (List Char × Gap × Place)
  | 0, p => some ([], .blanks [], p)
  | fuel + 1, p =>
    match p.rest with
    | [] => some ([], .blanks [], p)
    | c :: rest =>
      if isBlank c || isBreak c then some ([], .blanks [], p)
      else if !double && c == '\'' then
        if rest.head? = some '\'' then do
          let (cs, g, p) ← quotedRun? double fuel (p.skip 2)
          return ('\'' :: cs, g, p)
        else some ([], .blanks [], p)
      else if double && c == '"' then some ([], .blanks [], p)
      else if double && c == '\\' then
        if rest.head?.any isBreak then some ([], .breaks none [], p.skip 2)
        else do
          let (d, taken) ← escape? rest
          let (cs, g, p) ← quotedRun? double fuel (p.skip (taken + 1))
          return (d :: cs, g, p)
      else do
        let (cs, g, p) ← quotedRun? double fuel p.next
        return (c :: cs, g, p)

/-- The rest of a quoted scalar, up to its closing quote. -/
def quotedRest? (double : Bool) : Nat → Place → Option (List Char × Place)
  | 0, _ => none
  | fuel + 1, p => do
    if p.atDocumentMark ∨ p.rest = [] then none
    let (run, g, p) ← quotedRun? double (p.rest.length + 1) p
    let closing := if double then '"' else '\''
    if p.rest.head? = some closing ∧ !g.isMultiline then return (run, p.next)
    let (g, p) ← gap? 0 (p.rest.length + 1) g p
    let (more, p) ← quotedRest? double fuel p
    return (run ++ g.text ++ more, p)

/-- A quoted scalar, from its opening quote on. -/
def quoted? (double : Bool) (p : Place) : Option (List Char × Place) :=
  quotedRest? double (p.rest.length + 1) p.next

/-! ### Block scalars -/

/-- What becomes of the line breaks at the end of a block scalar. -/
inductive Chomping where
  | strip
  /-- All but the first are dropped. -/
  | clip
  | keep
deriving DecidableEq, Repr

/-- The chomping that a character asks for. -/
def Chomping.ofChar? (c : Char) : Option Chomping :=
  if c = '+' then some .keep else if c = '-' then some .strip else none

/-- The chomping and the indentation that the header of a block scalar asks for, in either order. -/
def blockHeader? (p : Place) : Option (Chomping × Option Nat × Place) :=
  let chomping (p : Place) : Chomping × Place :=
    match p.rest.head?.bind Chomping.ofChar? with
    | some c => (c, p.next)
    | none => (.clip, p)
  let digit (p : Place) : Option (Option Nat × Place) :=
    match p.rest with
    | c :: _ =>
      if c = '0' then none
      else if c.isDigit then some (some (c.toNat - 48), p.next)
      else some (none, p)
    | [] => some (none, p)
  if (p.rest.head?.bind Chomping.ofChar?).isSome then
    let (c, p) := chomping p
    (digit p).map fun (n, p) => (c, n, p)
  else
    match digit p with
    | none => none
    | some (none, p) => some (.clip, none, p)
    | some (some n, p) =>
      let (c, p) := chomping p
      some (c, some n, p)

/-- Reads empty lines, and the indentation of the line after them, up to the column `indent` if it is
known.  Gives the line breaks and the largest column that was reached. -/
def emptyLines? (indent : Option Nat) :
    Nat → List Char → Nat → Place → Option (List Char × Nat × Place)
  | 0, breaks, most, p => some (breaks, most, p)
  | fuel + 1, breaks, most, p =>
    let (_, p) :=
      match indent with
      | none => p.span (· == ' ')
      | some n =>
        let spaces := ((p.rest.take (n - p.column)).takeWhile (· == ' ')).length
        ([], p.skip spaces)
    let most := max most p.column
    match p.rest with
    | c :: _ =>
      if c = '\t' ∧ indent.all (p.column < ·) then none
      else if isBreak c then emptyLines? indent fuel (breaks ++ [c]) most p.next
      else some (breaks, most, p)
    | [] => some (breaks, most, p)

/-- The lines of a block scalar.  `first` is the break before the line, `others` are those of empty
lines after it, and `afterBlank` tells whether the line before started with a blank. -/
def blockLines? (literal : Bool) (indent : Nat) : Nat → List Char → Option Char → List Char → Bool →
    Place → Option (List Char × Option Char × List Char × Place)
  | 0, text, first, others, _, p => some (text, first, others, p)
  | fuel + 1, text, first, others, afterBlank, p =>
    if p.column ≠ indent ∨ p.rest = [] then some (text, first, others, p)
    else do
      let blank := p.rest.head?.any isBlank
      let joint :=
        if !literal && first == some '\n' && !afterBlank && !blank then
          (if others.isEmpty then [' '] else others)
        else first.toList ++ others
      let (line, p) := p.span (!isBreak ·)
      let first := p.rest.head?
      let (others, _, p) ← emptyLines? (some indent) (p.rest.length + 1) [] 0 p.next
      blockLines? literal indent fuel (text ++ joint ++ line) first others blank p

/-- A block scalar, from its indicator on, inside a block whose indentation is `outer`. -/
def block? (literal : Bool) (outer : Int) (p : Place) : Option (List Char × Place) := do
  let (chomping, increment, p) ← blockHeader? p.next
  let p ← p.endOfLine?
  let wanted := increment.map fun n => (if 0 ≤ outer then outer.toNat else 0) + n
  let (others, most, p) ← emptyLines? wanted (p.rest.length + 1) [] 0 p
  let indent := wanted.getD (max most (max (outer + 1).toNat 1))
  let (text, first, others, p) ←
    blockLines? literal indent (p.rest.length + 1) [] none others false p
  let tail := match chomping with
    | .strip => []
    | .clip => first.toList
    | .keep => first.toList ++ others
  return (text ++ tail, p)

end MetadataTrust.Yaml
