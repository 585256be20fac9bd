import MetadataTrust.Binary64

/-!
JSON values.

Objects are lists of members in the order in which they were written.  A number is an integer when
it was written as one and lies between -2^63 and 2^64 - 1; all others are doubles.
-/

namespace MetadataTrust

/-- A JSON value. -/
inductive Json where
  | null
  | bool (b : Bool)
  | integer (n : Int)
  | double (x : Binary64)
  | string (s : String)
  | array (items : List Json)
  | object (members : List (String × Json))
deriving Repr, Inhabited

namespace Json

mutual

/-- Equality of values; members count in order. -/
def decEq : (a b : Json) → Decidable (a = b)
  | .null, b => match b with
    | .null => isTrue rfl
    | .bool _ | .integer _ | .double _ | .string _ | .array _ | .object _ => isFalse nofun
  | .bool x, b => match b with
    | .bool y => decidable_of_iff (x = y) (by simp)
    | .null | .integer _ | .double _ | .string _ | .array _ | .object _ => isFalse nofun
  | .integer x, b => match b with
    | .integer y => decidable_of_iff (x = y) (by simp)
    | .null | .bool _ | .double _ | .string _ | .array _ | .object _ => isFalse nofun
  | .double x, b => match b with
    | .double y => decidable_of_iff (x = y) (by simp)
    | .null | .bool _ | .integer _ | .string _ | .array _ | .object _ => isFalse nofun
  | .string x, b => match b with
    | .string y => decidable_of_iff (x = y) (by simp)
    | .null | .bool _ | .integer _ | .double _ | .array _ | .object _ => isFalse nofun
  | .array xs, b => match b with
    | .array ys =>
      have := decEqItems xs ys
      decidable_of_iff (xs = ys) (by simp)
    | .null | .bool _ | .integer _ | .double _ | .string _ | .object _ => isFalse nofun
  | .object xs, b => match b with
    | .object ys =>
      have := decEqMembers xs ys
      decidable_of_iff (xs = ys) (by simp)
    | .null | .bool _ | .integer _ | .double _ | .string _ | .array _ => isFalse nofun

/-- Equality of lists of values. -/
def decEqItems : (a b : List Json) → Decidable (a = b)
  | [], [] => isTrue rfl
  | [], _ :: _ => isFalse nofun
  | _ :: _, [] => isFalse nofun
  | x :: xs, y :: ys =>
    have := decEq x y
    have := decEqItems xs ys
    decidable_of_iff (x = y ∧ xs = ys) (by simp)

/-- Equality of lists of members. -/
def decEqMembers : (a b : List (String × Json)) → Decidable (a = b)
  | [], [] => isTrue rfl
  | [], _ :: _ => isFalse nofun
  | _ :: _, [] => isFalse nofun
  | (k, x) :: xs, (l, y) :: ys =>
    have := decEq x y
    have := decEqMembers xs ys
    decidable_of_iff (k = l ∧ x = y ∧ xs = ys) (by simp [and_assoc])

end

instance : DecidableEq Json := decEq

/-- The member of an object with the given name. -/
def member? (name : String) : Json → Option Json
  | .object members => (members.find? (·.1 == name)).map (·.2)
  | _ => none

/-- The members with `name` set: in its place if there already, else at the end. -/
def setMember (name : String) (value : Json) : List (String × Json) → List (String × Json)
  | [] => [(name, value)]
  | (k, v) :: more => if k = name then (k, value) :: more else (k, v) :: setMember name value more

/-- Text as a value. -/
def ofText? : Option String → Json
  | some s => .string s
  | none => .null

end Json

end MetadataTrust
