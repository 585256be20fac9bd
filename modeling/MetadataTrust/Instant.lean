import MetadataTrust.Text.Blank

/-!
Moments in universal time, how they are written, and how they are read.

A moment is kept as its calendar components.  It may be a leap second, which counts as second 60 of
its minute.  Reading is lenient about blanks and about the number of digits, and brings a moment with
an offset to universal time.
-/

namespace MetadataTrust

/-- Whether a year has a 29th of February. -/
def isLeapYear (y : Int) : Bool := (y % 4 = 0 && y % 100 ≠ 0) || y % 400 = 0

/-- The number of days of a month. -/
def daysOfMonth (y : Int) (m : Nat) : Nat :=
  if m = 2 then (if isLeapYear y then 29 else 28)
  else if m = 4 ∨ m = 6 ∨ m = 9 ∨ m = 11 then 30
  else 31

/-- A day of the calendar. -/
structure CivilDate where
  year : Int
  month : Nat
  day : Nat
deriving DecidableEq, Repr, Inhabited

namespace CivilDate

/-- Whether the day exists, in the years that are supported. -/
def Valid (d : CivilDate) : Prop :=
  -262143 ≤ d.year ∧ d.year ≤ 262142 ∧ 1 ≤ d.month ∧ d.month ≤ 12 ∧ 1 ≤ d.day ∧
    d.day ≤ daysOfMonth d.year d.month

instance (d : CivilDate) : Decidable d.Valid := by unfold Valid; infer_instance

/-- The day after. -/
def next (d : CivilDate) : CivilDate :=
  if d.day < daysOfMonth d.year d.month then { d with day := d.day + 1 }
  else if d.month < 12 then ⟨d.year, d.month + 1, 1⟩
  else ⟨d.year + 1, 1, 1⟩

/-- The day before. -/
def previous (d : CivilDate) : CivilDate :=
  if 1 < d.day then { d with day := d.day - 1 }
  else if 1 < d.month then ⟨d.year, d.month - 1, daysOfMonth d.year (d.month - 1)⟩
  else ⟨d.year - 1, 12, 31⟩

/-- The number of days since the first day of the year 0. -/
def dayNumber (d : CivilDate) : Int :=
  let y := d.year - 1
  let before := (List.range (d.month - 1)).foldl (fun n m => n + daysOfMonth d.year (m + 1)) 0
  d.year * 365 + (y / 4 - y / 100 + y / 400 + 1) + before + (d.day - 1)

end CivilDate

/-- A moment in universal time. -/
structure Instant where
  date : CivilDate
  hour : Nat
  minute : Nat
  second : Nat
  nanos : Nat
  dateValid : date.Valid
  timeValid : hour < 24 ∧ minute < 60 ∧ second ≤ 60 ∧ nanos < 1000000000
deriving DecidableEq

namespace Instant

/-- The moment with the given components, if there is one. -/
def ofParts? (date : CivilDate) (hour minute second nanos : Nat) : Option Instant :=
  if h : date.Valid ∧ hour < 24 ∧ minute < 60 ∧ second ≤ 60 ∧ nanos < 1000000000 then
    some ⟨date, hour, minute, second, nanos, h.1, h.2⟩
  else none

/-- The components from the most significant one on. -/
def key (t : Instant) : List Int :=
  [t.date.year, t.date.month, t.date.day, t.hour, t.minute, t.second, t.nanos]

/-- Moments are compared component by component. -/
instance : LT Instant := ⟨fun a b => a.key < b.key⟩

instance : DecidableLT Instant := fun a b => inferInstanceAs (Decidable (a.key < b.key))

/-- Nanoseconds since the start of the year 0. -/
def totalNanos (t : Instant) : Int :=
  (((t.date.dayNumber * 24 + t.hour) * 60 + t.minute) * 60 + t.second) * 1000000000 + t.nanos

/-! ### Writing -/

/-- A number in decimal, with leading zeros up to a width. -/
def padded (width n : Nat) : List Char :=
  let ds := Nat.toDigits 10 n
  List.replicate (width - ds.length) '0' ++ ds

/-- A year: four digits, and a sign outside the years from 0 to 9999. -/
def yearChars (y : Int) : List Char :=
  if 0 ≤ y ∧ y ≤ 9999 then padded 4 y.natAbs
  else (if y < 0 then '-' else '+') :: padded 4 y.natAbs

/-- A fraction of a second with three, six or nine digits, or nothing if it is zero. -/
def fractionChars (nanos : Nat) : List Char :=
  if nanos = 0 then []
  else if nanos % 1000000 = 0 then '.' :: padded 3 (nanos / 1000000)
  else if nanos % 1000 = 0 then '.' :: padded 6 (nanos / 1000)
  else '.' :: padded 9 nanos

/-- A moment in the form `YYYY-MM-DDTHH:MM:SSZ`. -/
def chars (t : Instant) : List Char :=
  yearChars t.date.year ++ '-' :: padded 2 t.date.month ++ '-' :: padded 2 t.date.day ++
    'T' :: padded 2 t.hour ++ ':' :: padded 2 t.minute ++ ':' :: padded 2 t.second ++
    fractionChars t.nanos ++ ['Z']

/-- The written form. -/
def text (t : Instant) : String := String.ofList t.chars

/-! ### Reading -/

/-- Drops leading blanks. -/
def skipBlanks (cs : List Char) : List Char := cs.dropWhile Text.isBlank

/-- The number that decimal digits write. -/
def digitsValue (ds : List Char) : Nat := ds.foldl (fun n c => n * 10 + (c.toNat - 48)) 0

/-- A number of at least one and at most `most` digits. -/
def number? (most : Nat) (cs : List Char) : Option (Nat × List Char) :=
  let ds := (cs.take most).takeWhile Char.isDigit
  if ds = [] then none else some (digitsValue ds, cs.drop ds.length)

/-- A number after blanks. -/
def field? (most : Nat) (cs : List Char) : Option (Nat × List Char) := number? most (skipBlanks cs)

/-- A given character after blanks. -/
def mark? (c : Char) (cs : List Char) : Option (List Char) :=
  match skipBlanks cs with
  | d :: rest => if d = c then some rest else none
  | [] => none

/-- A year: up to four digits, or a sign and any number of them. -/
def year? (cs : List Char) : Option (Int × List Char) :=
  match skipBlanks cs with
  | '-' :: rest => (number? rest.length rest).map fun (n, rest) => (-(n : Int), rest)
  | '+' :: rest => (number? rest.length rest).map fun (n, rest) => ((n : Int), rest)
  | cs => (number? 4 cs).map fun (n, rest) => ((n : Int), rest)

/-- A fraction, if there is one, as nanoseconds; digits after the ninth are dropped. -/
def fraction? : List Char → Option (Nat × List Char)
  | '.' :: rest => do
    let (n, after) ← number? 9 rest
    return (n * Nat.pow 10 (9 - (rest.length - after.length)), after.dropWhile Char.isDigit)
  | cs => some (0, cs)

/-- Two digits. -/
def twoDigits? : List Char → Option (Nat × List Char)
  | a :: b :: rest => if a.isDigit && b.isDigit then some (digitsValue [a, b], rest) else none
  | _ => none

/-- An offset from universal time in minutes. -/
def offset? (cs : List Char) : Option (Int × List Char) :=
  match cs with
  | 'Z' :: rest => some (0, rest)
  | 'z' :: rest => some (0, rest)
  | u :: t :: c :: rest =>
    if [u.toUpper, t.toUpper, c.toUpper] = ['U', 'T', 'C'] then some (0, rest)
    else do
      let negative ← if u = '+' then some false
        else if u = '-' ∨ u = '\u2212' then some true else none
      let (hours, rest) ← twoDigits? (t :: c :: rest)
      let (minutes, rest) ← twoDigits? (rest.dropWhile fun c => c = ':' || Text.isBlank c)
      if minutes < 60 ∧ hours < 24 then
        let total : Int := hours * 60 + minutes
        return (if negative then -total else total, rest)
      else none
  | _ => none

/-- The moment that is `minutes` before the given time of a day; less than a day. -/
def shifted? (date : CivilDate) (hour minute second nanos : Nat) (minutes : Int) : Option Instant :=
  let total : Int := hour * 60 + minute - minutes
  let date :=
    if total < 0 then date.previous else if 1440 ≤ total then date.next else date
  let inDay := (total % 1440).toNat
  ofParts? date (inDay / 60) (inDay % 60) second nanos

/-- A moment with its offset, and what follows it. -/
def read? (cs : List Char) : Option (Instant × List Char) := do
  let (year, cs) ← year? cs
  let (month, cs) ← field? 2 (← mark? '-' cs)
  let (day, cs) ← field? 2 (← mark? '-' cs)
  let cs ← match cs with
    | c :: rest => if c = 'T' ∨ c = 't' ∨ c = ' ' then some rest else none
    | [] => none
  let (hour, cs) ← field? 2 cs
  let (minute, cs) ← field? 2 (← mark? ':' cs)
  let (second, cs) ← field? 2 (← mark? ':' cs)
  let (nanos, cs) ← fraction? cs
  let (offset, cs) ← offset? (skipBlanks cs)
  -- the local time must itself be one that exists
  let _ ← ofParts? ⟨year, month, day⟩ hour minute second nanos
  let t ← shifted? ⟨year, month, day⟩ hour minute second nanos offset
  return (t, cs)

/-- The moment that a text writes, with nothing but blanks around it. -/
def parse? (s : String) : Option Instant :=
  match read? s.toList with
  | some (t, rest) => if skipBlanks rest = [] then some t else none
  | none => none

end Instant

end MetadataTrust
