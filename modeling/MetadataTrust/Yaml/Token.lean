import MetadataTrust.Yaml.Tag

/-!
The tokens of a YAML document.

The blocks that indentation makes are marked by tokens for their starts and ends, as brackets mark the
others.
-/

namespace MetadataTrust.Yaml

/-- How a scalar was written, as far as that bears on its meaning. -/
inductive ScalarStyle where
  | plain
  | literal
  /-- In quotes, or folded. -/
  | other
deriving DecidableEq, Repr, Inhabited

/-- A token. -/
inductive Token where
  | version (major minor : Nat)
  /-- What a tag handle stands for. -/
  | tagHandle (handle : String) (meaning : Octets)
  | documentStart
  | documentEnd
  | blockSequence
  | blockMapping
  | blockEnd
  | openBracket
  | closeBracket
  | openBrace
  | closeBrace
  /-- The dash of an item of a block sequence. -/
  | entry
  | comma
  /-- Before the key of a member of a mapping. -/
  | key
  /-- Before its value. -/
  | value
  | anchor (name : String)
  | alias (name : String)
  | tag (handle : String) (suffix : Octets)
  | scalar (style : ScalarStyle) (text : String)
deriving DecidableEq, Repr, Inhabited

/-! ### Anchors and tags -/

/-- The name of an anchor, after its indicator. -/
def anchorName? (p : Place) : Option (String × Place) :=
  let (name, p) := p.span isWordChar
  let ended := atBlankOrEnd p.rest ||
    p.rest.head?.any fun c => c ∈ ['?', ':', ',', ']', '\x7d', '%', '@', '\u0060']
  if !name.isEmpty && ended then some (String.ofList name, p) else none

/-- Whether a character can stand in a tag; some only between angle brackets. -/
def isTagChar (verbatim : Bool) (c : Char) : Bool :=
  isWordChar c ||
    c ∈ [';', '/', '?', ':', '@', '&', '=', '+', '$', '.', '!', '~', '*', '\'', '(', ')', '%'] ||
    (verbatim && c ∈ [',', '[', ']'])

/-- The characters of a tag, as octets; `required` asks for at least one. -/
def tagOctets? (verbatim required : Bool) (p : Place) : Option (Octets × Place) := do
  let (cs, p) := p.span (isTagChar verbatim)
  if required && cs.isEmpty then none
  return (← Tag.ofChars? cs, p)

/-- The handle with which a tag begins: a word between exclamation marks, or one without the second
mark, which is then no handle. -/
def tagHandle? (p : Place) : Option (List Char × Bool × Place) :=
  match p.rest with
  | '!' :: _ =>
    let (word, q) := p.next.span isWordChar
    if q.rest.head? = some '!' then some (word, true, q.next) else some (word, false, q)
  | _ => none

/-- The text of a handle. -/
def handleText (word : List Char) : String := String.ofList ('!' :: word ++ ['!'])

/-- A tag, from its indicator on. -/
def tag? (flow : Bool) (p : Place) : Option (Token × Place) := do
  let (t, p) ←
    if p.rest[1]? = some '<' then do
      let (suffix, p) ← tagOctets? true true (p.skip 2)
      if p.rest.head? ≠ some '>' then none
      pure (Token.tag "" suffix, p.next)
    else do
      let (word, closed, p) ← tagHandle? p
      let (suffix, p) ← tagOctets? false closed p
      if closed then pure (Token.tag (handleText word) suffix, p)
      else
        let name := Octets.ofText (String.ofList word) ++ suffix
        pure (if name.isEmpty then Token.tag "" (Octets.ofText "!") else Token.tag "!" name, p)
  if atBlankOrEnd p.rest ∨ (flow ∧ p.rest.head? = some ',') then return (t, p) else none

/-! ### Directives -/

/-- A number of a version. -/
def versionNumber? (p : Place) : Option (Nat × Place) :=
  let (ds, p) := p.span Char.isDigit
  if ds.isEmpty ∨ 9 < ds.length then none
  else some (ds.foldl (fun n c => n * 10 + (c.toNat - 48)) 0, p)

/-- What stands after `%YAML`. -/
def versionDirective? (p : Place) : Option (Token × Place) := do
  let (major, p) ← versionNumber? p.skipBlanks
  if p.rest.head? ≠ some '.' then none
  let (minor, p) ← versionNumber? p.next
  return (.version major minor, p)

/-- What stands after `%TAG`. -/
def tagDirective? (p : Place) : Option (Token × Place) := do
  let (word, closed, p) ← tagHandle? p.skipBlanks
  if !closed && !word.isEmpty then none
  if !p.rest.head?.any isBlank then none
  let (meaning, p) ← tagOctets? true true p.skipBlanks
  if !atBlankOrEnd p.rest then none
  return (.tagHandle (if closed then handleText word else "!") meaning, p)

/-- A directive, from its percent sign on. -/
def directive? (p : Place) : Option (Token × Place) := do
  let (name, p) := p.next.span isWordChar
  if !atBlankOrEnd p.rest then none
  let (t, p) ←
    if name = ['Y', 'A', 'M', 'L'] then versionDirective? p
    else if name = ['T', 'A', 'G'] then tagDirective? p
    else none
  return (t, ← p.endOfLine?)

/-! ### Splitting a document into tokens -/

/-- A scalar, flow collection, tag or anchor that may turn out to be the key of a mapping, when a colon
follows it. -/
structure PossibleKey where
  /-- Whether the colon must follow. -/
  required : Bool
  /-- The number of tokens before it. -/
  tokensBefore : Nat
  index : Nat
  line : Nat
  column : Nat
deriving Repr

/-- What has been read of a document, and where. -/
structure Lexer where
  place : Place
  /-- The tokens, the last one first. -/
  tokens : List Token := []
  count : Nat := 0
  /-- The column of the innermost block, or -1 outside all blocks. -/
  indent : Int := -1
  /-- The columns of the blocks around it. -/
  outer : List Int := []
  /-- Whether a key may start here. -/
  keyAllowed : Bool := true
  /-- The possible key at this level of brackets. -/
  possible : Option PossibleKey := none
  /-- Those at the levels around it. -/
  outerPossible : List (Option PossibleKey) := []

namespace Lexer

/-- Whether the place is between brackets or braces. -/
def inFlow (x : Lexer) : Bool := !x.outerPossible.isEmpty

/-- Appends a token. -/
def push (x : Lexer) (t : Token) : Lexer := { x with tokens := t :: x.tokens, count := x.count + 1 }

/-- Inserts a token after the first `n` tokens. -/
def insert (x : Lexer) (n : Nat) (t : Token) : Lexer :=
  let after := x.count - n
  { x with tokens := x.tokens.take after ++ t :: x.tokens.drop after, count := x.count + 1 }

/-- Appends a token that takes up the next `n` characters. -/
def pushMark (x : Lexer) (n : Nat) (t : Token) : Lexer := { x.push t with place := x.place.skip n }

/-- Whether a possible key has become impossible, because the line has ended or it is too long. -/
def isStale (p : Place) (k : PossibleKey) : Bool := k.line < p.line || k.index + 1024 < p.index

/-- Gives up a possible key, unless its colon must follow. -/
def giveUp? : Option PossibleKey → Option (Option PossibleKey)
  | some k => if k.required then none else some none
  | none => some none

/-- Gives up the possible key at this level. -/
def dropKey? (x : Lexer) : Option Lexer := do
  return { x with possible := ← giveUp? x.possible }

/-- Gives up every possible key that has become impossible. -/
def dropStale? (x : Lexer) : Option Lexer := do
  let check (k : Option PossibleKey) : Option (Option PossibleKey) :=
    if k.any (isStale x.place) then giveUp? k else some k
  return { x with possible := ← check x.possible, outerPossible := ← x.outerPossible.mapM check }

/-- Notes that a key may start here. -/
def noteKey? (x : Lexer) : Option Lexer :=
  if x.keyAllowed then do
    let x ← x.dropKey?
    let p := x.place
    let required := !x.inFlow && decide (x.indent = p.column)
    return { x with possible := some ⟨required, x.count, p.index, p.line, p.column⟩ }
  else some x

/-- Opens a block at a column inside the innermost one, with the token `t` after the first `n`
tokens. -/
def openBlock (x : Lexer) (column n : Nat) (t : Token) : Lexer :=
  if !x.inFlow && decide (x.indent < column) then
    { x.insert n t with indent := column, outer := x.indent :: x.outer }
  else x

/-- Closes the given blocks as long as they lie inside a column, with a token for each. -/
def closeFrom (column : Int) (tokens : List Token) (count : Nat) :
    Int → List Int → List Token × Nat × Int × List Int
  | indent, [] => (tokens, count, indent, [])
  | indent, next :: outer =>
    if column < indent then closeFrom column (.blockEnd :: tokens) (count + 1) next outer
    else (tokens, count, indent, next :: outer)

/-- Closes the blocks that lie inside a column. -/
def closeBlocks (x : Lexer) (column : Int) : Lexer :=
  if x.inFlow then x
  else
    let (tokens, count, indent, outer) := closeFrom column x.tokens x.count x.indent x.outer
    { x with tokens := tokens, count := count, indent := indent, outer := outer }

/-- Drops blanks, comments and line ends, and a byte order mark at the start of a line, which takes a
column.  A tab is no blank where a key may start. -/
def skipToToken : Nat → Lexer → Lexer
  | 0, x => x
  | fuel + 1, x =>
    let p := x.place
    match p.rest with
    | [] => x
    | c :: _ =>
      if c = '\uFEFF' ∧ p.column = 0 then skipToToken fuel { x with place := p.next }
      else if c = ' ' ∨ (c = '\t' ∧ (x.inFlow ∨ !x.keyAllowed)) then
        skipToToken fuel { x with place := p.next }
      else if c = '#' then skipToToken fuel { x with place := p.skipLine }
      else if isBreak c then
        skipToToken fuel { x with place := p.next, keyAllowed := x.keyAllowed || !x.inFlow }
      else x

/-- The end of all blocks, before a directive or the mark of a document. -/
def endBlocks? (x : Lexer) : Option Lexer := do
  return { ← (x.closeBlocks (-1)).dropKey? with keyAllowed := false }

/-- An opening bracket. -/
def openFlow? (x : Lexer) (t : Token) : Option Lexer := do
  let x ← x.noteKey?
  return { x.pushMark 1 t with
    possible := none, outerPossible := x.possible :: x.outerPossible, keyAllowed := true }

/-- A closing bracket. -/
def closeFlow? (x : Lexer) (t : Token) : Option Lexer := do
  let x ← x.dropKey?
  let x := match x.outerPossible with
    | k :: outer => { x with possible := k, outerPossible := outer }
    | [] => x
  return { x.pushMark 1 t with keyAllowed := false }

/-- A comma. -/
def comma? (x : Lexer) : Option Lexer := do
  return { (← x.dropKey?).pushMark 1 .comma with keyAllowed := true }

/-- The dash of an item. -/
def entry? (x : Lexer) : Option Lexer := do
  if !x.inFlow && !x.keyAllowed then none
  let x ← (x.openBlock x.place.column x.count .blockSequence).dropKey?
  return { x.pushMark 1 .entry with keyAllowed := true }

/-- The question mark of a key. -/
def explicitKey? (x : Lexer) : Option Lexer := do
  if !x.inFlow && !x.keyAllowed then none
  let x ← (x.openBlock x.place.column x.count .blockMapping).dropKey?
  return { x.pushMark 1 .key with keyAllowed := !x.inFlow }

/-- The colon of a value. -/
def value? (x : Lexer) : Option Lexer :=
  match x.possible with
  | some k =>
    let x := (x.insert k.tokensBefore .key).openBlock k.column k.tokensBefore .blockMapping
    some { x.pushMark 1 .value with possible := none, keyAllowed := false }
  | none =>
    if !x.inFlow && !x.keyAllowed then none
    else
      let x := x.openBlock x.place.column x.count .blockMapping
      some { x.pushMark 1 .value with keyAllowed := !x.inFlow }

/-- A token that may be the key of a mapping, and the place after it. -/
def keyToken? (x : Lexer) (read : Option (Token × Place)) : Option Lexer := do
  let x ← x.noteKey?
  let (t, p) ← read
  return { x.push t with place := p, keyAllowed := false }

/-- A block scalar. -/
def blockScalar? (x : Lexer) (literal : Bool) : Option Lexer := do
  let x ← x.dropKey?
  let (text, p) ← block? literal x.indent x.place
  let style := if literal then ScalarStyle.literal else .other
  return { x.push (.scalar style (String.ofList text)) with place := p, keyAllowed := true }

/-- A plain scalar. -/
def plainScalar? (x : Lexer) : Option Lexer := do
  let x ← x.noteKey?
  let (text, endsLine, p) ← plain? x.inFlow (x.indent + 1) x.place
  return { x.push (.scalar .plain (String.ofList text)) with place := p, keyAllowed := endsLine }

/-- Characters that cannot start a plain scalar. -/
def indicators : List Char :=
  ['-', '?', ':', ',', '[', ']', '\x7b', '\x7d', '#', '&', '*', '!', '|', '>', '\'', '"', '%', '@',
    '\u0060']

/-- Whether a plain scalar can start with `c` before `rest`. -/
def startsPlain (flow : Bool) (c : Char) (rest : List Char) : Bool :=
  !(isBlank c || isBreak c || c ∈ indicators) ||
    (c == '-' && !rest.head?.any isBlank) ||
    (!flow && (c == '?' || c == ':') && !atBlankOrEnd rest)

/-- Reads one token that starts with `c` before `rest`. -/
def token? (x : Lexer) (c : Char) (rest : List Char) : Option Lexer :=
  let p := x.place
  if p.column = 0 ∧ c = '%' then do
    let x ← x.endBlocks?
    let (t, p) ← directive? p
    return { x.push t with place := p }
  else if p.atDocumentMark then do
    return (← x.endBlocks?).pushMark 3 (if c = '-' then .documentStart else .documentEnd)
  else if c = '[' then x.openFlow? .openBracket
  else if c = '\x7b' then x.openFlow? .openBrace
  else if c = ']' then x.closeFlow? .closeBracket
  else if c = '\x7d' then x.closeFlow? .closeBrace
  else if c = ',' then x.comma?
  else if c = '-' ∧ atBlankOrEnd rest then x.entry?
  else if c = '?' ∧ (x.inFlow ∨ atBlankOrEnd rest) then x.explicitKey?
  else if c = ':' ∧ (x.inFlow ∨ atBlankOrEnd rest) then x.value?
  else if c = '*' then x.keyToken? ((anchorName? p.next).map fun (n, p) => (.alias n, p))
  else if c = '&' then x.keyToken? ((anchorName? p.next).map fun (n, p) => (.anchor n, p))
  else if c = '!' then x.keyToken? (tag? x.inFlow p)
  else if c = '|' ∧ !x.inFlow then x.blockScalar? true
  else if c = '>' ∧ !x.inFlow then x.blockScalar? false
  else if c = '\'' ∨ c = '"' then
    x.keyToken? ((quoted? (c = '"') p).map fun (t, p) => (.scalar .other (String.ofList t), p))
  else if startsPlain x.inFlow c rest then x.plainScalar?
  else none

/-- Reads all tokens; each takes at least one character, so `fuel` bounds their number. -/
def run? : Nat → Lexer → Option (List Token)
  | 0, _ => none
  | fuel + 1, x => do
    let x := skipToToken (x.place.rest.length + 1) x
    let x ← x.dropStale?
    let x := x.closeBlocks x.place.column
    match x.place.rest with
    | [] => return (← x.endBlocks?).tokens.reverse
    | c :: rest => run? fuel (← x.token? c rest)

end Lexer

/-- The tokens of a document. -/
def tokens? (s : String) : Option (List Token) :=
  let cs := s.toList
  if cs.all isAllowed then
    let cs := unifyBreaks cs
    Lexer.run? (cs.length + 1) { place := { rest := cs } }
  else none

end MetadataTrust.Yaml
