import MetadataTrust.Yaml.Token

/-!
YAML documents as they are written: scalars, sequences, mappings and aliases.

An anchor takes a slot: the number of the distinct names of anchors before it.  So a name that is used
again moves to a slot that the next new name takes too.  An alias has the slot that its name has where
the alias stands, and stands for the last node of the document that took the slot; that node may begin
after the alias, or lie around it.
-/

namespace MetadataTrust.Yaml

/-- A node as it is written. -/
inductive SerialNode where
  | alias (slot : Nat)
  | scalar (tag : Option Tag) (style : ScalarStyle) (text : String)
  | sequence (tag : Option Tag) (items : List SerialNode)
  | mapping (tag : Option Tag) (members : List (SerialNode × SerialNode))
deriving Repr, Inhabited

/-- A node that bears an anchor. -/
structure Bearer where
  slot : Nat
  /-- The number of anchors that start before its own. -/
  order : Nat
  node : SerialNode
deriving Repr, Inhabited

/-- A document as it is written. -/
structure SerialDocument where
  root : SerialNode
  bearers : List Bearer
deriving Repr, Inhabited

namespace SerialNode

/-- A scalar that has been left out. -/
def blank : SerialNode := .scalar none .plain ""

mutual

/-- The size of a node as it is written: one for a scalar or an alias, and one for each end of a
collection. -/
def size : SerialNode → Nat
  | .alias _ | .scalar .. => 1
  | .sequence _ items => sizeOfItems items + 2
  | .mapping _ members => sizeOfMembers members + 2

/-- The size of nodes. -/
def sizeOfItems : List SerialNode → Nat
  | [] => 0
  | n :: more => size n + sizeOfItems more

/-- The size of keys and values. -/
def sizeOfMembers : List (SerialNode × SerialNode) → Nat
  | [] => 0
  | (k, v) :: more => size k + size v + sizeOfMembers more

end

/-- Tokens that remain, and what is known of anchors so far. -/
structure Input where
  tokens : List Token
  /-- The slots of the names of anchors, each name once. -/
  slots : List (String × Nat) := []
  /-- The number of anchors so far. -/
  anchors : Nat := 0
  /-- The nodes that have been read and bear anchors. -/
  bearers : List Bearer := []

/-- Notes that an anchor starts here: its slot is the number of names before it. -/
def Input.noteAnchor (x : Input) (name : String) : Input :=
  { x with
    slots := (name, x.slots.length) :: x.slots.filter (·.1 ≠ name)
    anchors := x.anchors + 1 }

/-- Notes the node that bears the anchor that started in `before`. -/
def Input.noteBearer (before x : Input) (n : SerialNode) : Input :=
  { x with bearers := ⟨before.slots.length, before.anchors, n⟩ :: x.bearers }

/-- The anchor and the tag before a node, in either order. -/
def properties? (handles : List (String × Octets)) (tokens : List Token) :
    Option (Option String × Option Tag × List Token) :=
  match tokens with
  | .anchor a :: .tag h s :: rest => do return (some a, some (← Tag.resolve? handles h s), rest)
  | .tag h s :: .anchor a :: rest => do return (some a, some (← Tag.resolve? handles h s), rest)
  | .anchor a :: rest => some (some a, none, rest)
  | .tag h s :: rest => do return (none, some (← Tag.resolve? handles h s), rest)
  | rest => some (none, none, rest)

/-- Whether the next token ends a member of a block mapping, or starts another. -/
def atBlockMemberEnd : List Token → Bool
  | .key :: _ | .value :: _ | .blockEnd :: _ => true
  | _ => false

/-- Whether the next token ends an item of a sequence between brackets. -/
def atItemEnd : List Token → Bool
  | .comma :: _ | .closeBracket :: _ => true
  | _ => false

/-- Whether the next token ends a member of a mapping between braces. -/
def atMemberEnd : List Token → Bool
  | .comma :: _ | .closeBrace :: _ => true
  | _ => false

mutual

/-- A node.  `block` allows a block collection, and `flat` a sequence that is not indented. -/
def node? (handles : List (String × Octets)) :
    Nat → Bool → Bool → Input → Option (SerialNode × Input)
  | 0, _, _, _ => none
  | fuel + 1, block, flat, x =>
    match x.tokens with
    | .alias name :: rest => do
      let (_, slot) ← x.slots.find? (·.1 == name)
      return (.alias slot, { x with tokens := rest })
    | _ => do
      let (anchor, tag, tokens) ← properties? handles x.tokens
      let x := { x with tokens := tokens }
      match anchor with
      | some name =>
        let (n, y) ← content? handles fuel block flat true tag (x.noteAnchor name)
        return (n, x.noteBearer y n)
      | none => content? handles fuel block flat tag.isSome tag x

/-- What follows the anchor and the tag of a node; it may be left out after them. -/
def content? (handles : List (String × Octets)) :
    Nat → Bool → Bool → Bool → Option Tag → Input → Option (SerialNode × Input)
  | 0, _, _, _, _, _ => none
  | fuel + 1, block, flat, optional, tag, x =>
    let empty : Option (SerialNode × Input) :=
      if optional then some (.scalar tag .plain "", x) else none
    match x.tokens with
    | .entry :: _ =>
      if flat then do
        let (items, x) ← flatItems? handles fuel x
        return (.sequence tag items, x)
      else empty
    | .scalar style text :: rest =>
      some (.scalar tag style text, { x with tokens := rest })
    | .openBracket :: rest => do
      let (items, x) ← flowItems? handles fuel true { x with tokens := rest }
      return (.sequence tag items, x)
    | .openBrace :: rest => do
      let (members, x) ← flowMembers? handles fuel true { x with tokens := rest }
      return (.mapping tag members, x)
    | .blockSequence :: rest =>
      if block then do
        let (items, x) ← blockItems? handles fuel { x with tokens := rest }
        return (.sequence tag items, x)
      else empty
    | .blockMapping :: rest =>
      if block then do
        let (members, x) ← blockMembers? handles fuel { x with tokens := rest }
        return (.mapping tag members, x)
      else empty
    | _ => empty

/-- The items of an indented sequence. -/
def blockItems? (handles : List (String × Octets)) :
    Nat → Input → Option (List SerialNode × Input)
  | 0, _ => none
  | fuel + 1, x =>
    match x.tokens with
    | .blockEnd :: rest => some ([], { x with tokens := rest })
    | .entry :: rest => do
      let x := { x with tokens := rest }
      let (n, x) ← match rest with
        | .entry :: _ | .blockEnd :: _ => some (blank, x)
        | _ => node? handles fuel true false x
      let (more, x) ← blockItems? handles fuel x
      return (n :: more, x)
    | _ => none

/-- The items of a sequence at the indentation of the mapping around it. -/
def flatItems? (handles : List (String × Octets)) :
    Nat → Input → Option (List SerialNode × Input)
  | 0, _ => none
  | fuel + 1, x =>
    match x.tokens with
    | .entry :: rest => do
      let x := { x with tokens := rest }
      let (n, x) ← match rest with
        | .entry :: _ => some (blank, x)
        | _ => if atBlockMemberEnd rest then some (blank, x) else node? handles fuel true false x
      let (more, x) ← flatItems? handles fuel x
      return (n :: more, x)
    | _ => some ([], x)

/-- The members of an indented mapping. -/
def blockMembers? (handles : List (String × Octets)) :
    Nat → Input → Option (List (SerialNode × SerialNode) × Input)
  | 0, _ => none
  | fuel + 1, x =>
    match x.tokens with
    | .blockEnd :: rest => some ([], { x with tokens := rest })
    | .key :: rest => do
      let x := { x with tokens := rest }
      let (k, x) ← if atBlockMemberEnd rest then some (blank, x) else node? handles fuel true true x
      let (v, x) ← match x.tokens with
        | .value :: rest =>
          let x := { x with tokens := rest }
          if atBlockMemberEnd rest then some (blank, x) else node? handles fuel true true x
        | _ => some (blank, x)
      let (more, x) ← blockMembers? handles fuel x
      return ((k, v) :: more, x)
    | _ => none

/-- The items between brackets; all but the first follow a comma.  A key and a value without braces
make a mapping of one member, in which the mark after a missing key is lost. -/
def flowItems? (handles : List (String × Octets)) :
    Nat → Bool → Input → Option (List SerialNode × Input)
  | 0, _, _ => none
  | fuel + 1, first, x =>
    match x.tokens with
    | .closeBracket :: rest => some ([], { x with tokens := rest })
    | tokens => do
      let tokens ← if first then some tokens else
        match tokens with
        | .comma :: rest => some rest
        | _ => none
      match tokens with
      | .closeBracket :: rest => return ([], { x with tokens := rest })
      | .key :: rest =>
        let (k, x) ←
          match rest with
          | .value :: rest | .comma :: rest | .closeBracket :: rest =>
            some (blank, { x with tokens := rest })
          | rest => node? handles fuel false false { x with tokens := rest }
        let (v, x) ← match x.tokens with
          | .value :: rest =>
            let x := { x with tokens := rest }
            if atItemEnd rest then some (blank, x) else node? handles fuel false false x
          | _ => some (blank, x)
        let (more, x) ← flowItems? handles fuel false x
        return (.mapping none [(k, v)] :: more, x)
      | tokens =>
        let (n, x) ← node? handles fuel false false { x with tokens := tokens }
        let (more, x) ← flowItems? handles fuel false x
        return (n :: more, x)

/-- The members between braces; all but the first follow a comma.  A value may be left out. -/
def flowMembers? (handles : List (String × Octets)) :
    Nat → Bool → Input → Option (List (SerialNode × SerialNode) × Input)
  | 0, _, _ => none
  | fuel + 1, first, x =>
    match x.tokens with
    | .closeBrace :: rest => some ([], { x with tokens := rest })
    | tokens => do
      let tokens ← if first then some tokens else
        match tokens with
        | .comma :: rest => some rest
        | _ => none
      match tokens with
      | .closeBrace :: rest => return ([], { x with tokens := rest })
      | .key :: rest =>
        let x := { x with tokens := rest }
        let (k, x) ← match rest with
          | .value :: _ => some (blank, x)
          | _ => if atMemberEnd rest then some (blank, x) else node? handles fuel false false x
        let (v, x) ← match x.tokens with
          | .value :: rest =>
            let x := { x with tokens := rest }
            if atMemberEnd rest then some (blank, x) else node? handles fuel false false x
          | _ => some (blank, x)
        let (more, x) ← flowMembers? handles fuel false x
        return ((k, v) :: more, x)
      | tokens =>
        let (k, x) ← node? handles fuel false false { x with tokens := tokens }
        let (more, x) ← flowMembers? handles fuel false x
        return ((k, blank) :: more, x)

end

/-- Directives before a document: the tag handles that they define.  There may be one version, 1.1 or
1.2, and no handle may be defined twice. -/
def directives? (versioned : Bool) (handles : List (String × Octets)) :
    List Token → Option (List (String × Octets) × List Token)
  | .version major minor :: rest =>
    if !versioned && major == 1 && (minor == 1 || minor == 2) then directives? true handles rest
    else none
  | .tagHandle handle meaning :: rest =>
    if handles.any (·.1 == handle) then none
    else directives? versioned ((handle, meaning) :: handles) rest
  | rest => some (handles, rest)

end SerialNode

namespace SerialDocument

open SerialNode

/-- A document after its start, and the tokens after it. -/
def ofContent? (handles : List (String × Octets)) (tokens : List Token) :
    Option (SerialDocument × List Token) :=
  match tokens with
  | [] | .documentEnd :: _ | .documentStart :: _ | .version .. :: _ | .tagHandle .. :: _ =>
    some (⟨blank, []⟩, tokens)
  | _ => do
    let (n, x) ← node? handles (4 * tokens.length + 4) true false { tokens := tokens }
    return (⟨n, x.bearers⟩, x.tokens)

/-- The only document that the tokens make. -/
def ofTokens? (tokens : List Token) : Option SerialDocument := do
  let (d, rest) ← match tokens with
    | [] => some (⟨blank, []⟩, [])
    | .version .. :: _ | .tagHandle .. :: _ | .documentStart :: _ => do
      let (defined, rest) ← directives? false [] tokens
      match rest with
      | .documentStart :: rest => ofContent? (defined ++ Tag.standardHandles) rest
      | _ => none
    | .documentEnd :: _ => none
    | _ => ofContent? Tag.standardHandles tokens
  if (rest.dropWhile (· == .documentEnd)).isEmpty then return d else none

/-- The document that a text writes. -/
def parse? (s : String) : Option SerialDocument := do ofTokens? (← tokens? s)

/-- The node that an alias of the given slot stands for: the last one that took the slot. -/
def bearer? (d : SerialDocument) (slot : Nat) : Option SerialNode :=
  ((d.bearers.filter (·.slot = slot)).foldl (fun latest b =>
    if latest.all (·.order < b.order) then some b else latest) (none : Option Bearer)).map (·.node)

end SerialDocument

end MetadataTrust.Yaml
