/-!
The text of a YAML document, and places in it.

A place knows what follows it, and its line and column.  Carriage returns and next-line characters
count as line feeds.
-/

namespace MetadataTrust.Yaml

/-- Whether a character may occur in a document. -/
def isAllowed (c : Char) : Bool :=
  let n := c.toNat
  n == 9 || n == 10 || n == 13 || (0x20 ≤ n && n ≤ 0x7E) || n == 0x85 || (0xA0 ≤ n && n ≤ 0xD7FF) ||
    (0xE000 ≤ n && n ≤ 0xFFFD) || 0x10000 ≤ n

/-- The text with a line feed for each carriage return, next-line character, and pair of carriage
return and line feed. -/
def unifyBreaks : List Char → List Char
  | [] => []
  | '\r' :: '\n' :: rest => '\n' :: unifyBreaks rest
  | c :: rest => (if c = '\r' ∨ c = '\u0085' then '\n' else c) :: unifyBreaks rest

/-- Whether a character ends a line. -/
def isBreak (c : Char) : Bool := c = '\n' || c = '\u2028' || c = '\u2029'

/-- Whether a character is a space or a tab. -/
def isBlank (c : Char) : Bool := c = ' ' || c = '\t'

/-- Whether a character can stand in the name of an anchor or a tag handle. -/
def isWordChar (c : Char) : Bool := c.isAlphanum || c = '_' || c = '-'

/-- Whether the next character, if there is one, is a blank or ends the line. -/
def atBlankOrEnd : List Char → Bool
  | [] => true
  | c :: _ => isBlank c || isBreak c

/-- Whether the line ends here. -/
def atLineEnd : List Char → Bool
  | [] => true
  | c :: _ => isBreak c

/-- A place in a document. -/
structure Place where
  /-- What follows. -/
  rest : List Char
  /-- The number of octets before the place, in UTF-8. -/
  index : Nat := 0
  line : Nat := 0
  column : Nat := 0
deriving Repr, Inhabited

namespace Place

/-- The place after the next character. -/
def next (p : Place) : Place :=
  match p.rest with
  | [] => p
  | c :: rest =>
    if isBreak c then ⟨rest, p.index + c.utf8Size, p.line + 1, 0⟩
    else ⟨rest, p.index + c.utf8Size, p.line, p.column + 1⟩

/-- The place after the next `n` characters. -/
def skip : Nat → Place → Place
  | 0, p => p
  | n + 1, p => skip n p.next

/-- The characters that satisfy `f` from here on, and the place after them. -/
def span (f : Char → Bool) (p : Place) : List Char × Place :=
  let cs := p.rest.takeWhile f
  (cs, p.skip cs.length)

/-- The place after the blanks here. -/
def skipBlanks (p : Place) : Place := (p.span isBlank).2

/-- The place at the end of the line. -/
def skipLine (p : Place) : Place := (p.span (!isBreak ·)).2

/-- Whether the rest of the line is blank or a comment, and the place after it. -/
def endOfLine? (p : Place) : Option Place :=
  let p := p.skipBlanks
  let p := if p.rest.head? = some '#' then p.skipLine else p
  if atLineEnd p.rest then some p.next else none

/-- Whether a line starts here that marks the end or the start of a document. -/
def atDocumentMark (p : Place) : Bool :=
  p.column == 0 && (['-', '-', '-'].isPrefixOf p.rest || ['.', '.', '.'].isPrefixOf p.rest) &&
    atBlankOrEnd (p.rest.drop 3)

end Place

end MetadataTrust.Yaml
