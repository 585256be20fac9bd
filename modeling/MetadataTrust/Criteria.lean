import MetadataTrust.Credential
import MetadataTrust.KeyInfo
import MetadataTrust.QName
import MetadataTrust.Text.Quoted

/-!
What a resolution asks for.

A set of criteria holds at most one of each kind; adding one replaces that of the same kind.
-/

namespace MetadataTrust

/-- The kinds of criteria. -/
inductive CriterionKind where
  | entityId
  | keyName
  | publicKey
  | usage
  | keyInfo
  | role
  | protocol
deriving DecidableEq, Repr

namespace CriterionKind

/-- All kinds. -/
def all : List CriterionKind := [.entityId, .keyName, .publicKey, .usage, .keyInfo, .role, .protocol]

/-- The name of a kind in messages. -/
def name : CriterionKind → String
  | .entityId => "EntityIdCriterion"
  | .keyName => "KeyNameCriterion"
  | .publicKey => "PublicKeyCriterion"
  | .usage => "UsageCriterion"
  | .keyInfo => "KeyInfoCriterion"
  | .role => "EntityRoleCriterion"
  | .protocol => "ProtocolCriterion"

/-- The full name of a kind in diagnostics. -/
def fullName : CriterionKind → String
  | .role => "fedtrust_saml::criterion::EntityRoleCriterion"
  | .protocol => "fedtrust_saml::criterion::ProtocolCriterion"
  | k => "fedtrust_xmlsec::criteria::" ++ k.name

end CriterionKind

/-- One thing asked for. -/
inductive Criterion where
  | entityId (id : String)
  | keyName (name : String)
  | publicKey (key : PublicKey)
  | usage (usage : KeyUsage)
  | keyInfo (info : KeyInfo)
  /-- The element type of a role. -/
  | role (type : QName)
  /-- A protocol that a role supports. -/
  | protocol (uri : String)

/-- The kind of a criterion. -/
def Criterion.kind : Criterion → CriterionKind
  | .entityId _ => .entityId
  | .keyName _ => .keyName
  | .publicKey _ => .publicKey
  | .usage _ => .usage
  | .keyInfo _ => .keyInfo
  | .role _ => .role
  | .protocol _ => .protocol

/-- At most one criterion of each kind. -/
structure Criteria where
  entityId : Option String := none
  keyName : Option String := none
  publicKey : Option PublicKey := none
  usage : Option KeyUsage := none
  keyInfo : Option KeyInfo := none
  role : Option QName := none
  protocol : Option String := none
deriving DecidableEq, Inhabited

namespace Criteria

/-- No criteria. -/
def empty : Criteria := {}

/-- The criterion of a kind. -/
def get? (c : Criteria) : CriterionKind → Option Criterion
  | .entityId => c.entityId.map .entityId
  | .keyName => c.keyName.map .keyName
  | .publicKey => c.publicKey.map .publicKey
  | .usage => c.usage.map .usage
  | .keyInfo => c.keyInfo.map .keyInfo
  | .role => c.role.map .role
  | .protocol => c.protocol.map .protocol

/-- Whether there is a criterion of a kind. -/
def has (c : Criteria) (k : CriterionKind) : Bool := (c.get? k).isSome

/-- Adds a criterion in place of any other of its kind. -/
def add (c : Criteria) : Criterion → Criteria
  | .entityId id => { c with entityId := some id }
  | .keyName name => { c with keyName := some name }
  | .publicKey key => { c with publicKey := some key }
  | .usage usage => { c with usage := some usage }
  | .keyInfo info => { c with keyInfo := some info }
  | .role type => { c with role := some type }
  | .protocol uri => { c with protocol := some uri }

/-- Removes the criterion of a kind. -/
def remove (c : Criteria) : CriterionKind → Criteria
  | .entityId => { c with entityId := none }
  | .keyName => { c with keyName := none }
  | .publicKey => { c with publicKey := none }
  | .usage => { c with usage := none }
  | .keyInfo => { c with keyInfo := none }
  | .role => { c with role := none }
  | .protocol => { c with protocol := none }

/-- Adds every criterion of `d`. -/
def extend (c d : Criteria) : Criteria :=
  { entityId := d.entityId <|> c.entityId
    keyName := d.keyName <|> c.keyName
    publicKey := d.publicKey <|> c.publicKey
    usage := d.usage <|> c.usage
    keyInfo := d.keyInfo <|> c.keyInfo
    role := d.role <|> c.role
    protocol := d.protocol <|> c.protocol }

/-- The kinds that are there. -/
def kinds (c : Criteria) : List CriterionKind := CriterionKind.all.filter c.has

/-- The number of criteria. -/
def size (c : Criteria) : Nat := c.kinds.length

/-- The usage asked for. -/
def wantedUsage (c : Criteria) : KeyUsage := c.usage.getD .unspecified

/-- The criteria as diagnostics show them: the full names of their kinds, in order. -/
def describe (c : Criteria) : String :=
  let names := (SortedSet.ofList (c.kinds.map CriterionKind.fullName)).toList
  Text.record "CriteriaSet" [("criteria", Text.bracketed (names.map Text.quoted))] false

end Criteria

end MetadataTrust
