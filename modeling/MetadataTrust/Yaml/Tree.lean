import MetadataTrust.Tree
import MetadataTrust.Yaml.Value

/-!
YAML nodes as structured data.

Where the form that is asked for is known, a scalar can be read in every way that its text allows:
`tree` records them all.  Where it is not, the scalar is taken for the value that it stands for, and local
tags have no meaning: `typed?`.
-/

namespace MetadataTrust.Yaml

/-- What a scalar says about the optional value in whose place it stands. -/
def scalarPresence (tag : Option Tag) (style : ScalarStyle) (s : String) : Presence :=
  if style ≠ .plain then .present
  else if tag = some Tag.null then (if isNullName s then .absent else .contradictory)
  else if tag.isSome then .present
  else if s.isEmpty || isNullName s then .absent
  else .present

/-- A scalar with everything that it can stand for. -/
def openScalar (tag : Option Tag) (style : ScalarStyle) (s : String) : Scalar where
  text := some s
  value := (scalarValue? tag style s).map ScalarValue.json
  truth := if style = .plain ∨ (style = .literal ∧ tag = some Tag.bool) then truthOf? s else none
  presence := scalarPresence tag style s
  blank := style = .plain && s.isEmpty

/-- A scalar that stands for a known value alone. -/
def ScalarValue.scalar (v : ScalarValue) : Scalar where
  text := match v with
    | .text s => some s
    | .null | .bool _ | .integer _ | .double _ | .notFinite => none
  value := some v.json
  truth := match v with
    | .bool b => some b
    | .null | .integer _ | .double _ | .notFinite | .text _ => none
  presence := if v = .null then .absent else .present

/-- The data under a tag: a local tag marks them with its name. -/
def markedBy (tag : Option Tag) (t : Tree) : Tree :=
  match Tag.localName? tag with
  | some name => .marked name t
  | none => t

namespace Node

/-- The name that a node gives a member of a record. -/
def memberName : Node → MemberName
  | .scalar _ _ s => .text s
  | .sequence .. | .mapping .. => .other

mutual

/-- The node as data of a form that is known. -/
def tree : Node → Tree
  | .scalar tag style s => markedBy tag (.scalar (openScalar tag style s))
  | .sequence tag items => markedBy tag (.sequence false (trees items))
  | .mapping tag members => markedBy tag (.mapping (memberTrees members))

/-- Nodes as data of a form that is known. -/
def trees : List Node → List Tree
  | [] => []
  | n :: more => tree n :: trees more

/-- Members of a mapping as data of a form that is known. -/
def memberTrees : List (Node × Node) → List (MemberName × Tree)
  | [] => []
  | (k, v) :: more => (memberName k, tree v) :: memberTrees more

end

/-- The name of a member whose key is a scalar that stands for the given value. -/
def typedName : ScalarValue → MemberName
  | .text s => .text s
  | .integer n => if 0 ≤ n then .position n.toNat else .other
  | .null | .bool _ | .double _ | .notFinite => .other

/-- The name that a node gives a member, by the value that it stands for. -/
def typedMemberName? : Node → Option MemberName
  | .scalar tag style s =>
    if (Tag.localName? tag).isSome then none else (scalarValue? tag style s).map typedName
  | .sequence .. | .mapping .. => some .other

mutual

/-- The node as data of the values that its scalars stand for; nothing if there is a local tag, or a
scalar that stands for no value. -/
def typed? : Node → Option Tree
  | .scalar tag style s =>
    if (Tag.localName? tag).isSome then none
    else (scalarValue? tag style s).map fun v => .scalar v.scalar
  | .sequence tag items =>
    if (Tag.localName? tag).isSome then none else do return .sequence true (← typedItems? items)
  | .mapping tag members =>
    if (Tag.localName? tag).isSome then none else do return .mapping (← typedMembers? members)

/-- Nodes as data of the values that their scalars stand for. -/
def typedItems? : List Node → Option (List Tree)
  | [] => some []
  | n :: more => do return (← typed? n) :: (← typedItems? more)

/-- Members of a mapping as data of the values that their scalars stand for. -/
def typedMembers? : List (Node × Node) → Option (List (MemberName × Tree))
  | [] => some []
  | (k, v) :: more => do
    return (← typedMemberName? k, ← typed? v) :: (← typedMembers? more)

end

/-- The text of a scalar. -/
def text? : Node → Option String
  | .scalar _ _ s => some s
  | .sequence .. | .mapping .. => none

/-- The items of a sequence; a scalar left out is an empty one. -/
def items? : Node → Option (List Node)
  | .sequence _ items => some items
  | .scalar _ style s => if style = .plain ∧ s.isEmpty then some [] else none
  | .mapping .. => none

end Node

end MetadataTrust.Yaml
