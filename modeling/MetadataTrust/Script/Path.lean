import MetadataTrust.Json.Basic

/-!
JSONPath queries, and what they select.

A path starts at the whole document, `$`.  Each step leads from the nodes that have been reached to those
that it selects; where a step does not apply it selects nothing.  A node is a value together with its
location, because a condition keeps a node only once, however often it has been reached.
-/

namespace MetadataTrust

/-- A condition between `[?(` and `)`. -/
structure PathCondition where
  /-- The member that the condition is about; the value itself if there is none. -/
  member : Option String
  /-- The text that is asked for; any value will do if there is none. -/
  text : Option String
deriving DecidableEq, Repr

/-- One step of a path. -/
inductive PathStep where
  /-- The members with the given names, in the order of the names. -/
  | members (names : List String)
  /-- The item at the given position, of an array or of each member that is an array. -/
  | item (position : Int)
  /-- The items at the given positions, in the order of the positions. -/
  | items (positions : List Int)
  /-- The items from one position up to another, every `step`-th of them. -/
  | slice (start stop : Option Int) (step : Nat)
  /-- All members or items. -/
  | all
  /-- What satisfies the condition. -/
  | having (condition : PathCondition)
  /-- The value and everything inside it. -/
  | everything
deriving DecidableEq, Repr

/-- A path, as its steps from the whole document on. -/
structure JsonPath where
  steps : List PathStep
deriving DecidableEq, Repr, Inhabited

/-- A value in a document, with its location: the positions of the members and items on the way to it,
the last one first. -/
structure PathNode where
  location : List Nat
  value : Json
deriving Repr, Inhabited

namespace PathNode

/-- The items of an array. -/
def items (n : PathNode) : List PathNode :=
  match n.value with
  | .array xs => xs.mapIdx fun i x => ⟨i :: n.location, x⟩
  | _ => []

/-- The members of an object. -/
def members (n : PathNode) : List (String × PathNode) :=
  match n.value with
  | .object fields => fields.mapIdx fun i (name, x) => (name, ⟨i :: n.location, x⟩)
  | _ => []

/-- The member of the given name. -/
def member? (name : String) (n : PathNode) : Option PathNode :=
  (n.members.find? (·.1 == name)).map (·.2)

/-- A position in a list of the given length.  A negative one counts from the end, and one before the
start stands for the start. -/
def offset (length : Nat) (position : Int) : Nat :=
  if position < 0 then (position + length).toNat else position.toNat

/-- The item at the given position. -/
def item? (position : Int) (n : PathNode) : Option PathNode :=
  n.items[offset n.items.length position]?

mutual

/-- The value at a location and everything inside it; a value comes before what is inside it. -/
def inside (location : List Nat) : Json → List PathNode
  | .array xs => ⟨location, .array xs⟩ :: insideItems location 0 xs
  | .object fields => ⟨location, .object fields⟩ :: insideMembers location 0 fields
  | x => [⟨location, x⟩]

/-- The items of an array from position `i` on, and everything inside them. -/
def insideItems (location : List Nat) (i : Nat) : List Json → List PathNode
  | [] => []
  | x :: more => inside (i :: location) x ++ insideItems location (i + 1) more

/-- The members of an object from position `i` on, and everything inside them. -/
def insideMembers (location : List Nat) (i : Nat) : List (String × Json) → List PathNode
  | [] => []
  | (_, x) :: more => inside (i :: location) x ++ insideMembers location (i + 1) more

end

mutual

/-- The objects among which a condition on a value chooses: the value itself, or those in an array and
in arrays inside it. -/
def objects (location : List Nat) : Json → List PathNode
  | .object fields => [⟨location, .object fields⟩]
  | .array xs => objectsOfItems location 0 xs
  | _ => []

/-- The objects among the items of an array from position `i` on, and in arrays inside it. -/
def objectsOfItems (location : List Nat) (i : Nat) : List Json → List PathNode
  | [] => []
  | x :: more => objects (i :: location) x ++ objectsOfItems location (i + 1) more

end

end PathNode

namespace PathCondition

/-- The value that the condition is about. -/
def subject? (c : PathCondition) (n : PathNode) : Option Json :=
  match c.member with
  | none => some n.value
  | some name => (n.member? name).map (·.value)

/-- What the condition chooses among. -/
def candidates (c : PathCondition) (reached : List PathNode) : List PathNode :=
  if c.member.isNone then reached
  else
    (reached.flatMap fun n => PathNode.objects n.location n.value).eraseDupsBy
      (·.location == ·.location)

/-- Whether a candidate satisfies the condition. -/
def holds (c : PathCondition) (n : PathNode) : Bool :=
  (c.subject? n).any fun value => c.text.all fun s => value = .string s

/-- What satisfies the condition. -/
def keep (c : PathCondition) (reached : List PathNode) : List PathNode :=
  (c.candidates reached).filter c.holds

end PathCondition

namespace PathStep

/-- What the step selects from one node; a condition looks at all nodes together. -/
def select : PathStep → PathNode → List PathNode
  | .members names, n => names.filterMap n.member?
  | .item position, n => (n.item? position).toList ++ n.members.filterMap (·.2.item? position)
  | .items positions, n => positions.filterMap n.item?
  | .slice start stop step, n =>
    let first := (start.map (PathNode.offset n.items.length)).getD 0
    let last := (stop.map (PathNode.offset n.items.length)).getD n.items.length
    (((n.items.take last).drop first).zipIdx.filter (·.2 % step = 0)).map (·.1)
  | .all, n => n.items ++ n.members.map (·.2)
  | .having c, n => c.keep [n]
  | .everything, n => PathNode.inside n.location n.value

/-- What the step selects from the nodes that have been reached. -/
def apply (step : PathStep) (reached : List PathNode) : List PathNode :=
  match step with
  | .having c => c.keep reached
  | step => reached.flatMap step.select

end PathStep

/-- What the path selects, in order. -/
def JsonPath.select (p : JsonPath) (j : Json) : List Json :=
  (p.steps.foldl (fun reached step => step.apply reached) [⟨[], j⟩]).map (·.value)

end MetadataTrust
