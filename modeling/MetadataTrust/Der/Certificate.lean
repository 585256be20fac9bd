import MetadataTrust.Der.PublicKeyInfo

/-!
The parts of an X.509 certificate that name its subject and its key.

A certificate is read for its structure alone: neither its signature nor its dates are compared with
anything.  Its name may break off at an attribute that cannot be read, and a subject alternative
name that is missing, malformed or repeated gives no names.
-/

namespace MetadataTrust.Der

/-- The parts of a certificate that are used. -/
structure Certificate where
  /-- The common names of the subject, in order. -/
  commonNames : List String
  /-- The DNS names among the subject's alternative names, in order. -/
  dnsNames : List String
  /-- The encoded public key of the subject. -/
  keyInfo : Octets
deriving Repr

/-! ### Names -/

/-- An attribute of a name: its type and its value. -/
def readAttribute? : Reader (Octets × Element) :=
  readSequence? fun content => do
    let (oid, rest) ← readObjectId? content
    let (value, rest) ← read? rest
    return ((oid, value), rest)

/-- A set of attributes, at least one. -/
def readAttributeSet? : Reader (List (Octets × Element)) :=
  readInside? 17 fun content =>
    match readMany readAttribute? content with
    | ([], _) => none
    | found => some found

/-- The attributes of a distinguished name, as far as they can be read. -/
def readName? : Reader (List (Octets × Element)) :=
  readSequence? fun content =>
    let (sets, rest) := readMany readAttributeSet? content
    some (sets.flatten, rest)

/-- The object identifier of common names, 2.5.4.3. -/
def commonNameObjectId : Octets := [0x55, 0x04, 0x03]

/-- The text of an attribute value: UTF-8, numeric, printable and IA5 strings have one. -/
def attributeText? (e : Element) : Option String :=
  if e.tag = 12 ∨ e.tag = 18 ∨ e.tag = 19 ∨ e.tag = 22 then Octets.toText? e.content else none

/-- The common names among the attributes. -/
def commonNames (attributes : List (Octets × Element)) : List String :=
  attributes.filterMap fun (oid, value) =>
    if oid = commonNameObjectId then attributeText? value else none

/-! ### Dates -/

/-- The value of two decimal digits. -/
def twoDigits? (a b : UInt8) : Option Nat :=
  let x := a.toNat
  let y := b.toNat
  if 48 ≤ x ∧ x ≤ 57 ∧ 48 ≤ y ∧ y ≤ 57 then some ((x - 48) * 10 + (y - 48)) else none

/-- The number of days of a month. -/
def daysInMonth (year month : Nat) : Nat :=
  if month = 2 then
    if (year % 4 = 0 ∧ year % 100 ≠ 0) ∨ year % 400 = 0 then 29 else 28
  else if month = 4 ∨ month = 6 ∨ month = 9 ∨ month = 11 then 30
  else 31

/-- Whether the components make a moment of the calendar. -/
def isMoment (year month day hour minute second : Nat) : Bool :=
  1 ≤ month && month ≤ 12 && 1 ≤ day && day ≤ daysInMonth year month && hour ≤ 23 && minute ≤ 59 &&
    second ≤ 59

/-- Whether an octet is a visible character, a space, or the deletion mark. -/
def isVisible (b : UInt8) : Bool := 32 ≤ b.toNat && b.toNat ≤ 127

/-- Whether the octets are a zone: `Z`, or a signed number of hours and minutes. -/
def isZone : Octets → Bool
  | [0x5A] => true
  | [sign, h1, h2, m1, m2] =>
    (sign = 0x2B || sign = 0x2D) &&
      match twoDigits? h1 h2, twoDigits? m1 m2 with
      | some h, some m => h ≤ 25 && m ≤ 59
      | _, _ => false
  | _ => false

/-- Whether the octets are a UTC time: a year of two digits, seconds, and a zone.  The seconds may be
missing before a zone of one octet; two octets in their place that are no digits count as none. -/
def isUtcTime : Octets → Bool
  | y1 :: y2 :: mo1 :: mo2 :: d1 :: d2 :: h1 :: h2 :: mi1 :: mi2 :: rest =>
    match twoDigits? y1 y2, twoDigits? mo1 mo2, twoDigits? d1 d2, twoDigits? h1 h2,
        twoDigits? mi1 mi2 with
    | some y, some mo, some d, some h, some mi =>
      let year := if y < 50 then 2000 + y else 1900 + y
      let (second, zone) :=
        match rest with
        | s1 :: s2 :: zone => ((twoDigits? s1 s2).getD 0, zone)
        | _ => (0, rest)
      isMoment year mo d h mi second && isZone zone && rest.all isVisible
    | _, _, _, _, _ => false
  | _ => false

/-- Whether the octets end a generalized time: at most three digits of a fraction, then `Z`. -/
def isFractionAndZulu : Octets → Bool
  | [0x5A] => true
  | 0x2E :: digits =>
    let fraction := digits.takeWhile fun b => 48 ≤ b.toNat && b.toNat ≤ 57
    digits.drop fraction.length = [0x5A] && fraction.length ≤ 3
  | _ => false

/-- Whether the octets are a generalized time: a year of four digits, seconds unless the `Z` follows
the minutes, and `Z`. -/
def isGeneralizedTime : Octets → Bool
  | y1 :: y2 :: y3 :: y4 :: mo1 :: mo2 :: d1 :: d2 :: h1 :: h2 :: mi1 :: mi2 :: rest =>
    match twoDigits? y1 y2, twoDigits? y3 y4, twoDigits? mo1 mo2, twoDigits? d1 d2,
        twoDigits? h1 h2, twoDigits? mi1 mi2 with
    | some c, some y, some mo, some d, some h, some mi =>
      match rest with
      | s1 :: s2 :: rest => match twoDigits? s1 s2 with
        | some s => isMoment (c * 100 + y) mo d h mi s && isFractionAndZulu rest
        | none => false
      | rest => isMoment (c * 100 + y) mo d h mi 0 && isFractionAndZulu rest
    | _, _, _, _, _, _ => false
  | _ => false

/-- A date in either form. -/
def readDate? : Reader Unit := fun bs => do
  let (e, rest) ← read? bs
  if (e.tag = 23 ∧ isUtcTime e.content) ∨ (e.tag = 24 ∧ isGeneralizedTime e.content) then
    some ((), rest)
  else none

/-- The two dates between which a certificate is valid. -/
def readValidity? : Reader Unit :=
  readSequence? fun content => do
    let (_, rest) ← readDate? content
    readDate? rest

/-! ### Extensions -/

/-- A DNS name, any other general name, or nothing if it is malformed. -/
def readGeneralName? : Reader (Option String) := fun bs => do
  let (e, rest) ← read? bs
  if e.tagClass ≠ 2 then none
  else
    match e.tag with
    | 0 => do
      let _ ← readObjectId? e.content
      return (none, rest)
    | 1 | 6 => do
      let _ ← Octets.toText? e.content
      return (none, rest)
    | 2 => do
      let name ← Octets.toText? e.content
      return (some name, rest)
    | 4 => do
      match ← readName? e.content with
      | (_, []) => return (none, rest)
      | _ => none
    | 3 | 5 | 7 | 8 => some (none, rest)
    | _ => none

/-- The DNS names of a subject alternative name; none if it is malformed. -/
def dnsNames (value : Octets) : List String :=
  match readSequence? (fun content => (readAll? readGeneralName? content).map (·, [])) value with
  | some (names, _) => names.filterMap id
  | none => []

/-- An extension: its type and its value.  A Boolean that marks it critical may stand between. -/
def readExtension? : Reader (Octets × Octets) :=
  readSequence? fun content => do
    let (oid, rest) ← readObjectId? content
    let rest := match read? rest with
      | some (e, after) => if e.tag = 1 ∧ e.content.length = 1 then after else rest
      | none => rest
    let (value, rest) ← read? rest
    if value.tag = 4 ∧ ¬ value.constructed then some ((oid, value.content), rest) else none

/-- The extensions at the end of a certificate body, if there are any; nothing may follow them. -/
def readExtensions? (bs : Octets) : Option (List (Octets × Octets)) :=
  if bs = [] then some []
  else do
    let ((e, _), rest) ← readHeader? bs
    if e.tag = 3 then
      match ← readSequence? (fun content => (readAll? readExtension? content).map (·, [])) rest with
      | (found, []) => return found
      | _ => none
    else none

/-- The object identifier of the subject alternative name, 2.5.29.17. -/
def alternativeNameObjectId : Octets := [0x55, 0x1D, 0x11]

/-- The DNS names of the one subject alternative name among the extensions. -/
def alternativeNames (extensions : List (Octets × Octets)) : List String :=
  match extensions.filter (·.1 = alternativeNameObjectId) with
  | [(_, value)] => dnsNames value
  | _ => []

/-! ### Certificates -/

/-- An optional element in the context-specific class, passed over if `accepts` holds of its
content. -/
def skipOptional? (tag : Nat) (accepts : Octets → Bool) (bs : Octets) : Option Octets :=
  if bs = [] then some bs
  else do
    let ((header, _), _) ← readHeader? bs
    if header.tagClass = 2 ∧ header.tag = tag then
      let (e, rest) ← read? bs
      if accepts e.content then some rest else none
    else some bs

/-- Whether the octets start with a version number: an integer of at most 32 bits. -/
def startsWithVersion (bs : Octets) : Bool :=
  match read? bs with
  | some (e, _) =>
    e.tag = 2 && !e.constructed &&
      match naturalContent? e.content with
      | some n => decide (n < UInt32.size)
      | none => false
  | none => false

/-- A serial number: any integer. -/
def readSerial? : Reader Unit := fun bs => do
  let (e, rest) ← read? bs
  if e.tag = 2 then some ((), rest) else none

/-- The body of a certificate, which its issuer signs. -/
def readBody? : Reader Certificate :=
  readSequence? fun content => do
    let rest ← skipOptional? 0 startsWithVersion content
    let (_, rest) ← readSerial? rest
    let (_, rest) ← readAlgorithm? rest
    let (_, rest) ← readName? rest
    let (_, rest) ← readValidity? rest
    let (subject, rest) ← readName? rest
    let (key, rest) ← PublicKeyInfo.read? rest
    let rest ← skipOptional? 1 (!·.isEmpty) rest
    let rest ← skipOptional? 2 (!·.isEmpty) rest
    let extensions ← readExtensions? rest
    return (⟨commonNames subject, alternativeNames extensions, key.encoded⟩, [])

/-- A certificate; octets after it are ignored. -/
def Certificate.read? (bs : Octets) : Option Certificate := do
  let (certificate, _) ← readSequence? (fun content => do
    let (certificate, rest) ← readBody? content
    let (_, rest) ← readAlgorithm? rest
    let (_, rest) ← readBitString? rest
    return (certificate, rest)) bs
  return certificate

/-- The names of the subject: its common names, then its DNS names. -/
def Certificate.names (c : Certificate) : List String := c.commonNames ++ c.dnsNames

end MetadataTrust.Der
