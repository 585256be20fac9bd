import MetadataTrust.Script.Path
import MetadataTrust.Script.Path.Token

/-!
Reading JSONPath queries.

These are the forms that are read: names and positions, one or several, slices, wildcards, descents, and
conditions that ask for a member or for its being equal to a text.  Other comparisons, connectives, members
of members in a condition, and several names or positions or a slice after a descent are not read; an engine
that knows them has another `PathSelection`.

What cannot start a step ends a path, so that anything may follow a complete path.  Blanks may stand only
between brackets, and not everywhere there.
-/

namespace MetadataTrust.JsonPath

/-- Drops blanks. -/
def skipBlanks (ts : List PathToken) : List PathToken := ts.dropWhile (· = .blank)

/-- The integer of a name: digits after at most one sign, in 64 bits. -/
def integer? (name : String) : Option Int :=
  let (negative, ds) := match name.toList with
    | '-' :: ds => (true, ds)
    | '+' :: ds => (false, ds)
    | ds => (false, ds)
  let n : Nat := ds.foldl (fun n c => n * 10 + (c.toNat - 48)) 0
  let value : Int := if negative then -(n : Int) else n
  if ds ≠ [] ∧ ds.all Char.isDigit ∧ Int64.minValue.toInt ≤ value ∧ value ≤ Int64.maxValue.toInt then
    some value
  else none

/-- Further quoted names after commas, at most `fuel` of them.  Blanks may stand after each. -/
def moreNames? : Nat → List PathToken → Option (List String × List PathToken)
  | fuel + 1, .mark ',' :: rest =>
    match skipBlanks rest with
    | .quoted name :: rest => do
      let (names, rest) ← moreNames? fuel (skipBlanks rest)
      return (name :: names, rest)
    | _ => none
  | _, rest => some ([], rest)

/-- Further positions after commas, at most `fuel` of them.  No blank may stand before a comma. -/
def morePositions? : Nat → List PathToken → Option (List Int × List PathToken)
  | fuel + 1, .mark ',' :: rest =>
    match skipBlanks rest with
    | .name name :: rest => do
      let n ← integer? name
      let (positions, rest) ← morePositions? fuel rest
      return (n :: positions, rest)
    | _ => none
  | _, rest => some ([], rest)

/-- A number that may be left out, and the blanks after it. -/
def optionalInteger? (ts : List PathToken) : Option (Option Int × List PathToken) :=
  match skipBlanks ts with
  | .name name :: rest => do return (some (← integer? name), skipBlanks rest)
  | rest => some (none, rest)

/-- A slice, after the first colon. -/
def slice? (start : Option Int) (ts : List PathToken) : Option (PathStep × List PathToken) := do
  let (stop, rest) ← optionalInteger? ts
  match rest with
  | .mark ':' :: rest =>
    let (step, rest) ← optionalInteger? rest
    let n := step.getD 1
    if 0 ≤ n then return (.slice start stop n.toNat, rest) else none
  | rest => return (.slice start stop 1, rest)

/-- The member that a condition is about, after its `@`. -/
def subject? (ts : List PathToken) : Option (Option String × List PathToken) :=
  match ts with
  | .mark '.' :: .name name :: rest => some (some name, rest)
  | .mark '[' :: rest =>
    match skipBlanks rest with
    | .quoted name :: rest =>
      match skipBlanks rest with
      | .mark ']' :: rest => some (some name, rest)
      | _ => none
    | _ => none
  | rest => some (none, rest)

/-- A member and perhaps a text that it equals, on either side. -/
def comparison? (ts : List PathToken) : Option (PathCondition × List PathToken) :=
  match ts with
  | .mark '@' :: rest => do
    let (member, rest) ← subject? rest
    match skipBlanks rest with
    | .equal :: rest =>
      match skipBlanks rest with
      | .quoted text :: rest => return (⟨member, some text⟩, rest)
      | _ => none
    | rest => return (⟨member, none⟩, rest)
  | .quoted text :: rest =>
    match skipBlanks rest with
    | .equal :: rest =>
      match skipBlanks rest with
      | .mark '@' :: rest => do
        let (member, rest) ← subject? rest
        return (⟨member, some text⟩, rest)
      | _ => none
    | _ => none
  | _ => none

/-- A condition after an opening parenthesis, with the closing one; `fuel` bounds the parentheses
inside. -/
def condition? : Nat → List PathToken → Option (PathCondition × List PathToken)
  | 0, _ => none
  | fuel + 1, ts => do
    let (c, rest) ← match skipBlanks ts with
      | .mark '(' :: rest => condition? fuel rest
      | rest => comparison? rest
    match skipBlanks rest with
    | .mark ')' :: rest => return (c, rest)
    | _ => none

/-- What stands after an opening bracket. -/
def bracketContent? (ts : List PathToken) : Option (PathStep × List PathToken) :=
  match ts with
  | .mark '*' :: rest => some (.all, rest)
  | .mark '?' :: .mark '(' :: rest => do
    let (c, rest) ← condition? ts.length rest
    return (.having c, rest)
  | .mark ':' :: rest => slice? none rest
  | .quoted name :: rest => do
    let (names, rest) ← moreNames? rest.length rest
    return (.members (name :: names), rest)
  | .name name :: rest => do
    let n ← integer? name
    match skipBlanks rest with
    | .mark ':' :: rest => slice? (some n) rest
    | .mark ',' :: rest =>
      let (positions, rest) ← morePositions? ts.length (.mark ',' :: rest)
      return (.items (n :: positions), rest)
    | rest => return (.item n, rest)
  | _ => none

/-- A step after an opening bracket, with the closing one. -/
def bracketed? (ts : List PathToken) : Option (PathStep × List PathToken) := do
  let (step, rest) ← bracketContent? ts
  match skipBlanks rest with
  | .mark ']' :: rest => return (step, rest)
  | _ => none

/-- A step that is taken from everything inside a value. -/
def deep? : PathStep → Option (List PathStep)
  | .members [name] => some [.everything, .members [name]]
  | .item n => some [.everything, .items [n]]
  | .all => some [.everything, .all]
  | .having c => some [.everything, .all, .having c]
  | .members _ | .items _ | .slice .. | .everything => none

/-- The next steps, if there are any. -/
def step? (ts : List PathToken) : Option (Option (List PathStep × List PathToken)) :=
  match ts with
  | .mark '.' :: .mark '.' :: .mark '[' :: rest => do
    let (step, rest) ← bracketed? (skipBlanks rest)
    return some (← deep? step, rest)
  | .mark '.' :: .mark '.' :: .mark '*' :: rest => some (some ([.everything, .all], rest))
  | .mark '.' :: .mark '.' :: .name name :: rest =>
    some (some ([.everything, .members [name]], rest))
  | .mark '.' :: .mark '[' :: rest => do
    let (step, rest) ← bracketed? rest
    return some ([step], rest)
  | .mark '.' :: .mark '*' :: rest => some (some ([.all], rest))
  | .mark '.' :: .name name :: rest => some (some ([.members [name]], rest))
  | .mark '.' :: _ => none
  | .mark '[' :: rest => do
    let (step, rest) ← bracketed? (skipBlanks rest)
    return some ([step], rest)
  | _ => some none

/-- The steps of a path; `fuel` bounds their number. -/
def steps? : Nat → List PathToken → Option (List PathStep)
  | 0, _ => some []
  | fuel + 1, ts => do
    match ← step? ts with
    | none => return []
    | some (steps, rest) => return steps ++ (← steps? fuel rest)

/-- The path of a text. -/
def parse? (s : String) : Option JsonPath :=
  match PathToken.ofText s with
  | .root :: rest => (steps? rest.length rest).map JsonPath.mk
  | _ => none

/-- What the path of a text selects; a text that is no path is an error. -/
def selectText (text : String) (scope : Json) : Except String (List Json) :=
  match parse? text with
  | some path => .ok (path.select scope)
  | none => .error "syntax error"

end MetadataTrust.JsonPath
