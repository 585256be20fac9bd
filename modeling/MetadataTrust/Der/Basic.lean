import MetadataTrust.Octets

/-!
Reading values in the distinguished encoding rules (DER, ITU-T X.690).

A reader takes octets and gives back a value with the octets after it.  Two readers are offered.
`read?` takes an identifier of any form and a definite length that may be written in more octets
than it needs.  `readCanonical?` accepts an element with a given identifier octet only as
`Element.encode` writes it.
-/

namespace MetadataTrust.Der

/-- An encoded value: the parts of its identifier, and its content octets. -/
structure Element where
  /-- Universal is 0 and context-specific is 2. -/
  tagClass : Nat
  constructed : Bool
  tag : Nat
  content : Octets
deriving DecidableEq, Repr

/-- A reader gives a value and the octets that follow it. -/
abbrev Reader (α : Type) := Octets → Option (α × Octets)

/-- The rest of a tag number of several octets, at most `fuel` of them. -/
def readTagNumber? : Nat → Nat → Reader Nat
  | 0, _, _ => none
  | _, _, [] => none
  | fuel + 1, acc, b :: rest =>
    let n := (acc * 128 + b.toNat % 128) % UInt32.size
    if b.toNat < 128 then some (n, rest) else readTagNumber? fuel n rest

/-- The length of the content; the indefinite form is refused. -/
def readLength? : Reader Nat
  | [] => none
  | b :: rest =>
    let n := b.toNat
    if n < 128 then some (n, rest)
    else
      let k := n - 128
      if k = 0 ∨ k = 127 ∨ rest.length < k then none
      else
        let length := Octets.toNat (rest.take k)
        if length < UInt64.size then some (length, rest.drop k) else none

/-- An identifier and the length, as an element whose content is still to be read. -/
def readHeader? : Reader (Element × Nat)
  | [] => none
  | b :: rest => do
    let n := b.toNat
    let (tag, rest) ← if n % 32 = 31 then readTagNumber? 5 0 rest else some (n % 32, rest)
    let (length, rest) ← readLength? rest
    return ((⟨n / 64, n / 32 % 2 = 1, tag, []⟩, length), rest)

/-- One element. -/
def read? : Reader Element := fun bs => do
  let ((e, length), rest) ← readHeader? bs
  if rest.length < length then none
  else some ({ e with content := rest.take length }, rest.drop length)

/-- Reads as many values as there are, up to the first octets that are none. -/
def readMany {α : Type} (reader : Reader α) (bs : Octets) : List α × Octets :=
  match reader bs with
  | none => ([], bs)
  | some (a, rest) =>
    if rest.length < bs.length then
      let (more, left) := readMany reader rest
      (a :: more, left)
    else ([], bs)
termination_by bs.length

/-- Reads values until the octets are used up. -/
def readAll? {α : Type} (reader : Reader α) (bs : Octets) : Option (List α) :=
  match readMany reader bs with
  | (all, []) => some all
  | _ => none

/-- An element with the tag number `tag`, and from its content a value; what the content holds after
the value is ignored. -/
def readInside? {α : Type} (tag : Nat) (inner : Reader α) : Reader α := fun bs => do
  let (e, rest) ← read? bs
  if e.tag = tag then
    let (a, _) ← inner e.content
    return (a, rest)
  else none

/-- A sequence. -/
def readSequence? {α : Type} (inner : Reader α) : Reader α := readInside? 16 inner

/-- The bits of a bit string's content, after the octet that counts the unused ones; the unused bits
are zero. -/
def bitStringBits? : Octets → Option Octets
  | [] => none
  | unused :: bits =>
    match bits.getLast? with
    | none => if unused = 0 then some [] else none
    | some last =>
      if unused ≤ 8 ∧ last.toNat % (1 <<< unused.toNat) = 0 then some bits else none

/-- A bit string. -/
def readBitString? : Reader Octets := fun bs => do
  let (e, rest) ← read? bs
  if e.tag = 3 ∧ ¬ e.constructed then
    let bits ← bitStringBits? e.content
    return (bits, rest)
  else none

/-- The content octets of an object identifier; any primitive value is taken for one. -/
def readObjectId? : Reader Octets := fun bs => do
  let (e, rest) ← read? bs
  if e.constructed then none else some (e.content, rest)

/-- The content of an integer that is neither negative nor written with a spare leading zero. -/
def naturalContent? : Octets → Option Nat
  | [] => none
  | [b] => if b.toNat < 128 then some b.toNat else none
  | b :: c :: rest =>
    if b.toNat < 128 ∧ ¬ (b = 0 ∧ c.toNat < 128) then some (Octets.toNat (b :: c :: rest)) else none

/-- The arcs of an identifier after its first octet, in 64 bits each.  The last one need not end. -/
def arcs : Nat → Octets → List Nat
  | _, [] => []
  | acc, [b] => [(acc * 128 + b.toNat % 128) % UInt64.size]
  | acc, b :: rest =>
    let n := (acc * 128 + b.toNat % 128) % UInt64.size
    if b.toNat < 128 then n :: arcs 0 rest else arcs n rest

/-- The greatest number of octets that one arc takes; an arc that does not end counts for nothing. -/
def longestArc : Nat → Octets → Nat
  | _, [] => 0
  | run, b :: rest =>
    if b.toNat < 128 then max (run + 1) (longestArc 0 rest) else longestArc (run + 1) rest

/-- An object identifier in dotted form.  One with an arc that needs more than nine octets is shown
as hexadecimal octets instead. -/
def objectIdText (content : Octets) : String :=
  match content with
  | [] => ""
  | first :: rest =>
    if longestArc 0 rest > 9 then " ".intercalate (content.map fun b => Octets.toHex [b])
    else
      let n := first.toNat
      let head := if n = 0 ∧ rest = [] then [0] else [n / 40, n % 40]
      ".".intercalate ((head ++ arcs 0 rest).map toString)

/-! ### Canonical encodings -/

/-- The shortest encoding of a length. -/
def encodeLength (n : Nat) : Octets :=
  if n < 128 then [UInt8.ofNat n]
  else UInt8.ofNat (128 + Octets.width n) :: Octets.ofNatMinimal n

/-- A value with a one-octet identifier. -/
def encode (identifier : UInt8) (content : Octets) : Octets :=
  identifier :: encodeLength content.length ++ content

/-- The content of an integer that is not negative: no spare leading zeros, and a clear top bit. -/
def encodeNatural (n : Nat) : Octets :=
  let bs := Octets.ofNatMinimal n
  match bs with
  | [] => [0]
  | b :: _ => if b.toNat < 128 then bs else 0 :: bs

/-- The content of an element that starts with the given identifier octet and has its length in the
shortest form, with what follows it. -/
def readCanonical? (identifier : UInt8) : Reader Octets
  | [] => none
  | b :: rest => do
    if b = identifier then
      let (length, body) ← readLength? rest
      if body.length < length ∨ rest ≠ encodeLength length ++ body then none
      else some (body.take length, body.drop length)
    else none

/-- The whole input as one canonical element. -/
def readWhole? (identifier : UInt8) (bs : Octets) : Option Octets :=
  match readCanonical? identifier bs with
  | some (content, []) => some content
  | _ => none

end MetadataTrust.Der
