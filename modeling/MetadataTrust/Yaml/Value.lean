import MetadataTrust.Json.Basic
import MetadataTrust.Yaml.Node

/-!
The values that YAML scalars stand for.

A plain scalar without a tag is null, a truth value, an integer, a floating-point number or a text,
whichever it can be first.  A tag of the core schema asks for one of them.  All other scalars are texts.
-/

namespace MetadataTrust.Yaml

/-- What a scalar stands for. -/
inductive ScalarValue where
  | null
  | bool (b : Bool)
  | integer (n : Int)
  | double (x : Binary64)
  /-- Infinite, or not a number. -/
  | notFinite
  | text (s : String)
deriving DecidableEq, Repr

/-- The value as a JSON value; JSON has no number that is not finite. -/
def ScalarValue.json : ScalarValue → Json
  | .null | .notFinite => .null
  | .bool b => .bool b
  | .integer n => .integer n
  | .double x => .double x
  | .text s => .string s

/-- Whether a text is one of the names of null. -/
def isNullName (s : String) : Bool := s ∈ ["null", "Null", "NULL", "~"]

/-- The truth value that a text names. -/
def truthOf? (s : String) : Option Bool :=
  if s ∈ ["true", "True", "TRUE"] then some true
  else if s ∈ ["false", "False", "FALSE"] then some false
  else none

/-! ### Numbers -/

/-- What a text writes as an integer.  One that needs more than 128 bits is none. -/
inductive IntegerText where
  | none
  | value (n : Int)
  /-- An integer that fits in 128 bits, but not in 64. -/
  | outOfRange
deriving DecidableEq, Repr

/-- The value of a digit in a base up to sixteen. -/
def digit? (base : Nat) (c : Char) : Option Nat := do
  let n ← hexDigit? c
  if n < base then some n else none

/-- The number that digits write; there must be one. -/
def digits? (base : Nat) (cs : List Char) : Option Nat :=
  if cs.isEmpty then none else cs.foldlM (fun n c => do return n * base + (← digit? base c)) 0

/-- Whether a text consists of more than one decimal digit, of which the first is zero. -/
def isPaddedDigits (cs : List Char) : Bool :=
  match cs with
  | '0' :: c :: rest => (c :: rest).all Char.isDigit
  | _ => false

/-- The magnitude of an integer without its sign: decimal, or with the mark of a base. -/
def magnitude? : List Char → Option Nat
  | '0' :: 'x' :: rest => digits? 16 rest
  | '0' :: 'o' :: rest => digits? 8 rest
  | '0' :: 'b' :: rest => digits? 2 rest
  | cs => if isPaddedDigits cs then none else digits? 10 cs

/-- The integer that a text writes. -/
def integerText (cs : List Char) : IntegerText :=
  let (negative, unsigned) := match cs with
    | '-' :: rest => (true, rest)
    | '+' :: rest => (false, rest)
    | cs => (false, cs)
  match magnitude? unsigned with
  | none => .none
  | some n =>
    if negative then
      (if n ≤ Int64.minValue.toInt.natAbs then .value (-(n : Int))
      else if n ≤ 1 <<< 127 then .outOfRange
      else .none)
    else
      (if n < UInt64.size then .value n else if n < 1 <<< 128 then .outOfRange else .none)

/-- Splits a decimal into the digits before and after its point and its exponent. -/
def decimalParts? (cs : List Char) : Option (List Char × List Char × Int) := do
  let whole := cs.takeWhile Char.isDigit
  let rest := cs.drop whole.length
  let (fraction, rest) := match rest with
    | '.' :: more =>
      let ds := more.takeWhile Char.isDigit
      (ds, more.drop ds.length)
    | rest => ([], rest)
  if whole.isEmpty && fraction.isEmpty then none
  match rest with
  | [] => return (whole, fraction, 0)
  | e :: rest =>
    if e = 'e' ∨ e = 'E' then
      let (negative, ds) := match rest with
        | '-' :: ds => (true, ds)
        | '+' :: ds => (false, ds)
        | ds => (false, ds)
      let n ← digits? 10 ds
      return (whole, fraction, if negative then -(n : Int) else n)
    else none

/-- The finite number that a decimal writes. -/
def decimal? (negative : Bool) (cs : List Char) : Option Binary64 := do
  let (whole, fraction, exponent) ← decimalParts? cs
  let n := (whole ++ fraction).foldl (fun n c => n * 10 + (c.toNat - 48)) 0
  Binary64.ofDecimal? negative n (exponent - fraction.length)

/-- The floating-point number that a text writes. -/
def floatText? (s : String) : Option ScalarValue :=
  if s ∈ [".inf", ".Inf", ".INF", "+.inf", "+.Inf", "+.INF", "-.inf", "-.Inf", "-.INF", ".nan",
      ".NaN", ".NAN"] then some .notFinite
  else
    let x := match s.toList with
      | '-' :: rest => decimal? true rest
      | '+' :: rest => decimal? false rest
      | cs => decimal? false cs
    x.map .double

/-! ### Scalars -/

/-- What a plain scalar without a tag stands for, unless it is an integer out of range. -/
def plainValue? (s : String) : Option ScalarValue :=
  if s.isEmpty || isNullName s then some .null
  else
    match truthOf? s with
    | some b => some (.bool b)
    | none =>
      match integerText s.toList with
      | .value n => some (.integer n)
      | .outOfRange => none
      | .none =>
        let unsigned := match s.toList with
          | '-' :: rest | '+' :: rest => rest
          | cs => cs
        if isPaddedDigits unsigned then some (.text s)
        else some ((floatText? s).getD (.text s))

/-- What a scalar stands for; nothing if it does not have the form that its tag asks for, or is an
integer out of range.  Local tags do not count. -/
def scalarValue? (tag : Option Tag) (style : ScalarStyle) (s : String) : Option ScalarValue :=
  if tag.isNone || (Tag.localName? tag).isSome then
    if style = .plain then plainValue? s else some (.text s)
  else if tag = some Tag.null then (if isNullName s then some .null else none)
  else if tag = some Tag.bool then (truthOf? s).map .bool
  else if tag = some Tag.int then
    match integerText s.toList with
    | .value n => some (.integer n)
    | .none | .outOfRange => none
  else if tag = some Tag.float then floatText? s
  else some (.text s)

end MetadataTrust.Yaml
