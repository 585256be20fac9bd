/-!
Shapes of data: the parts that a reader looks at.

A reader of records passes over the members that it does not know, whatever they hold.
-/

namespace MetadataTrust

/-- The parts of data that a reader looks at. -/
inductive Shape where
  /-- Everything. -/
  | whole
  /-- A list, with the given parts of each item. -/
  | list (item : Shape)
  /-- A record, with the given parts of the members of these names, and no others. -/
  | record (members : List (String × Shape))
deriving Repr, Inhabited

namespace Shape

/-- The parts of an item.  Where no list is expected, everything counts. -/
def item : Shape → Shape
  | .list item => item
  | .whole | .record _ => .whole

/-- The parts of a member of the given name, unless it is passed over.  Where no record is expected,
everything counts. -/
def member? (name : String) : Shape → Option Shape
  | .record members => members.lookup name
  | .whole | .list _ => some .whole

/-- A record with all of each of the members of these names. -/
def members (names : List String) : Shape := .record (names.map (·, .whole))

end Shape

end MetadataTrust
