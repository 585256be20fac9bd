import MetadataTrust.Shape
import MetadataTrust.Yaml.Serial

/-!
The nodes of a YAML document: scalars, sequences and mappings, with their tags.

They come from a document as it is written by putting the nodes that aliases stand for in their places,
in the parts of the document that are looked at.  Documents in which those parts are nested too deeply,
or follow too many aliases for their size, have no node; so no part that is looked at lies inside itself.
-/

namespace MetadataTrust.Yaml

/-- A node. -/
inductive Node where
  | scalar (tag : Option Tag) (style : ScalarStyle) (text : String)
  | sequence (tag : Option Tag) (items : List Node)
  | mapping (tag : Option Tag) (members : List (Node × Node))
deriving Repr, Inhabited

namespace Node

/-- The node in place of what is passed over. -/
def blank : Node := .scalar none .plain ""

/-- The parts of the value under a key, unless it is passed over. -/
def shapeUnder? (shape : Shape) : Node → Option Shape
  | .scalar _ _ name => shape.member? name
  | .sequence .. | .mapping .. => some .whole

end Node

namespace SerialDocument

/-- How deep collections may be nested. -/
def depthLimit : Nat := 128

/-- How many aliases may be followed. -/
def aliasLimit (d : SerialDocument) : Nat := 100 * d.root.size

/-- The node that a node stands for; following an alias takes one of those that may be followed. -/
def follow? (d : SerialDocument) : SerialNode → StateT Nat Option SerialNode
  | .alias slot => do
    match ← get with
    | 0 => failure
    | remaining + 1 =>
      set remaining
      liftM (d.bearer? slot)
  | n => pure n

/-- The parts of a node that are looked at, with collections nested as deep as `depth`. -/
def represent? (d : SerialDocument) : Nat → Shape → SerialNode → StateT Nat Option Node
  | depth, shape, n => do
    match depth, ← d.follow? n with
    | _, .scalar tag style text => return .scalar tag style text
    | depth + 1, .sequence tag items =>
      return .sequence tag (← items.mapM (represent? d depth shape.item))
    | depth + 1, .mapping tag members =>
      return .mapping tag (← members.mapM fun (k, v) => do
        let key ← represent? d depth .whole k
        match key.shapeUnder? shape with
        | some inner => return (key, ← represent? d depth inner v)
        | none => return (key, .blank))
    | _, _ => failure

end SerialDocument

namespace Node

/-- The node of a document, as far as it is looked at. -/
def read? (shape : Shape) (s : String) : Option Node := do
  let d ← SerialDocument.parse? s
  (d.represent? SerialDocument.depthLimit shape d.root).run' d.aliasLimit

/-- The whole node of a document. -/
def parse? (s : String) : Option Node := read? .whole s

end Node

end MetadataTrust.Yaml
