import MetadataTrust.Json.Basic

/-!
Structured data as it is read, whatever the notation it was written in.

JSON and YAML differ in what a scalar may stand for: in YAML a plain `12` is also the text `12`, and a
scalar left out is also an empty list.  A `Tree` records what each scalar can stand for, so that the
readers of records, lists and variants below are the same for both.  A reader gives nothing if the
data do not have the form that it asks for.
-/

namespace MetadataTrust

/-- What a scalar says about the optional value in whose place it stands. -/
inductive Presence where
  | absent
  | present
  /-- It claims to be null and is not. -/
  | contradictory
deriving DecidableEq, Repr, Inhabited

/-- A scalar, with all that it can stand for. -/
structure Scalar where
  /-- The text, where a text is asked for. -/
  text : Option String
  /-- The value, where any value is asked for; nothing if it is a number out of range. -/
  value : Option Json
  /-- The truth value, where one is asked for. -/
  truth : Option Bool := none
  presence : Presence := .present
  /-- Whether it can stand for an empty list or record. -/
  blank : Bool := false
deriving Repr, Inhabited

/-- A name of a member of a record. -/
inductive MemberName where
  | text (name : String)
  /-- The position of the member among the members that the record declares. -/
  | position (n : Nat)
  /-- Something that cannot name a member. -/
  | other
deriving DecidableEq, Repr, Inhabited

/-- Structured data. -/
inductive Tree where
  | scalar (s : Scalar)
  /-- A list; `positional` says whether it may stand for a record, member by member. -/
  | sequence (positional : Bool) (items : List Tree)
  | mapping (members : List (MemberName × Tree))
  /-- Data marked with the name of a variant, by a means other than a mapping. -/
  | marked (name : String) (inner : Tree)
deriving Inhabited

namespace Tree

/-! ### JSON as data -/

mutual

/-- A JSON value as data. -/
def ofJson : Json → Tree
  | .null => .scalar { text := none, value := some .null, presence := .absent }
  | .bool b => .scalar { text := none, value := some (.bool b), truth := some b }
  | .integer n => .scalar { text := none, value := some (.integer n) }
  | .double x => .scalar { text := none, value := some (.double x) }
  | .string s => .scalar { text := some s, value := some (.string s) }
  | .array items => .sequence true (ofJsonItems items)
  | .object members => .mapping (ofJsonMembers members)

/-- JSON values as data. -/
def ofJsonItems : List Json → List Tree
  | [] => []
  | x :: more => ofJson x :: ofJsonItems more

/-- Members of a JSON object as data. -/
def ofJsonMembers : List (String × Json) → List (MemberName × Tree)
  | [] => []
  | (k, x) :: more => (.text k, ofJson x) :: ofJsonMembers more

end

/-! ### Readers -/

/-- A text. -/
def text? : Tree → Option String
  | .scalar s => s.text
  | .marked _ inner => inner.text?
  | .sequence .. | .mapping _ => none

/-- A truth value. -/
def bool? : Tree → Option Bool
  | .scalar s => s.truth
  | .marked _ inner => inner.bool?
  | .sequence .. | .mapping _ => none

/-- An integer of 64 bits with sign. -/
def int64? : Tree → Option Int
  | .scalar s => match s.value with
    | some (.integer n) => if Int64.minValue.toInt ≤ n ∧ n ≤ Int64.maxValue.toInt then some n else none
    | _ => none
  | .sequence .. | .mapping _ | .marked .. => none

/-- A list. -/
def items? : Tree → Option (List Tree)
  | .sequence _ items => some items
  | .scalar s => if s.blank then some [] else none
  | .marked _ inner => inner.items?
  | .mapping _ => none

/-- A list of things that `read` reads. -/
def listOf? {α : Type} (read : Tree → Option α) (t : Tree) : Option (List α) := do
  (← t.items?).mapM read

/-- Whether an optional value is there. -/
def presence : Tree → Presence
  | .scalar s => s.presence
  | .sequence .. | .mapping _ | .marked .. => .present

/-- The position of a member's name among the declared names. -/
def position? (names : List String) : MemberName → Option Nat
  | .text name => names.findIdx? (· == name)
  | .position n => if n < names.length then some n else none
  | .other => none

/-- Puts the members of a mapping in the places of the declared names.  A name may occur only once;
with `closed` no other names may occur. -/
def place? {α : Type} (names : List String) (closed : Bool) :
    List (MemberName × α) → List (Option α) → Option (List (Option α))
  | [], places => some places
  | (name, t) :: more, places =>
    match name, position? names name with
    | .other, _ => none
    | _, some i =>
      match places[i]? with
      | some none => place? names closed more (places.set i (some t))
      | _ => none
    | _, none => if closed then none else place? names closed more places

/-- The members of a mapping under the declared names, in that order, each if it is there. -/
def placed? {α : Type} (names : List String) (closed : Bool) (members : List (MemberName × α)) :
    Option (List (Option α)) :=
  place? names closed members (names.map fun _ => none)

/-- The members of a record that declares `names`, in that order, each if it is there. -/
def members? (names : List String) (closed : Bool) : Tree → Option (List (Option Tree))
  | .mapping members => placed? names closed members
  | .sequence positional items =>
    if positional ∧ items.length ≤ names.length then
      some (items.map some ++ List.replicate (names.length - items.length) none)
    else none
  | .scalar s => if s.blank then some (names.map fun _ => none) else none
  | .marked _ inner => inner.members? names closed

mutual

/-- Any value, as JSON; the members of a mapping must have texts as names.  Of two members of one name
the later one counts, in the place of the earlier. -/
def json? : Tree → Option Json
  | .scalar s => s.value
  | .sequence _ items => do return .array (← jsonItems? items)
  | .mapping members => do return .object (← jsonMembers? [] members)
  | .marked .. => none

/-- Any values, as JSON. -/
def jsonItems? : List Tree → Option (List Json)
  | [] => some []
  | t :: more => do return (← json? t) :: (← jsonItems? more)

/-- The members of a mapping as members of an object, after those before. -/
def jsonMembers? (before : List (String × Json)) :
    List (MemberName × Tree) → Option (List (String × Json))
  | [] => some before
  | (name, t) :: more =>
    match name with
    | .text k => do jsonMembers? (Json.setMember k (← json? t) before) more
    | .position _ | .other => none

end

/-- A member that must be there. -/
def needed? {α : Type} (read : Tree → Option α) : Option Tree → Option α
  | some t => read t
  | none => none

/-- A member with a default. -/
def orDefault? {α : Type} (default : α) (read : Tree → Option α) : Option Tree → Option α
  | some t => read t
  | none => some default

/-- An optional member. -/
def optional? {α : Type} (read : Tree → Option α) : Option Tree → Option (Option α)
  | none => some none
  | some t => match t.presence with
    | .absent => some none
    | .present => (read t).map some
    | .contradictory => none

/-- A variant: its name, and its content unless it was written as the name alone.  A mapping names
one variant and no more. -/
def variant? : Tree → Option (String × Option Tree)
  | .scalar s => match s.value with
    | some (.string name) => some (name, none)
    | _ => none
  | .mapping [(.text name, t)] => some (name, some t)
  | .mapping _ | .sequence .. | .marked .. => none

/-- The content of a variant that is a record; it cannot be given by position. -/
def recordContent? : Option Tree → Option Tree
  | some (.sequence ..) => none
  | t => t

/-- Whether the content of a variant is nothing. -/
def isNothing : Option Tree → Bool
  | none => true
  | some (.scalar s) => s.value = some .null
  | some _ => false

end Tree

end MetadataTrust
