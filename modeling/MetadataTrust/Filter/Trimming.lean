import MetadataTrust.Filter.Basic

/-!
Filters that look at one entity alone: at its identifier, its roles and its expiry.
-/

namespace MetadataTrust

/-! ### By identifier -/

/-- Identifiers that pass and identifiers that do not. -/
structure EntityIdPredicate where
  /-- What may pass; all may, if it is empty. -/
  included : NameSet := ∅
  /-- What may not pass. -/
  excluded : NameSet := ∅
deriving DecidableEq

namespace EntityIdPredicate

/-- Whether an identifier passes. -/
def admits (p : EntityIdPredicate) (id : String) : Bool :=
  (p.included.isEmpty || id ∈ p.included) && id ∉ p.excluded

/-- The filter that drops the other entities. -/
def filter (p : EntityIdPredicate) : MetadataFilter where
  name := "entity_id_predicate"
  apply := fun _ e => .ok (if p.admits e.entityId then some e else none)

end EntityIdPredicate

/-! ### By roles -/

/-- Roles that are kept. -/
structure RoleSelection where
  /-- The element types of the roles. -/
  retained : List QName
  /-- Whether an entity left without roles is dropped. -/
  dropRoleless : Bool := true
deriving DecidableEq

namespace RoleSelection

/-- Whether a role is kept. -/
def keeps (s : RoleSelection) (r : Role) : Bool := s.retained.any r.elementType.same

/-- The filter that removes the other roles. -/
def filter (s : RoleSelection) : MetadataFilter where
  name := "entity_role"
  apply := fun _ e =>
    let roles := e.roles.filter s.keeps
    .ok (if roles.isEmpty && s.dropRoleless then none else some { e with roles := roles })

end RoleSelection

/-! ### By expiry -/

/-- A bound on how long an entity may stay valid, in whole seconds.  It must fit in 64 bits when it is
counted in milliseconds. -/
structure ValidityBound where
  seconds : Int
  inRange : -9223372036854775 ≤ seconds ∧ seconds ≤ 9223372036854775
deriving DecidableEq

/-- The bound of a number of seconds, if it is in range. -/
def ValidityBound.ofSeconds? (seconds : Int) : Option ValidityBound :=
  if h : -9223372036854775 ≤ seconds ∧ seconds ≤ 9223372036854775 then some ⟨seconds, h⟩ else none

/-- Rejects entities without an expiry, and those whose expiry lies too far ahead. -/
def requiredExpiry (bound : Option ValidityBound) : MetadataFilter where
  name := "required_valid_until"
  apply := fun now e =>
    match e.validUntil with
    | none => .error (.rejected "required_valid_until" .noExpiry)
    | some expiry =>
      let window := expiry.totalNanos - now.totalNanos
      match bound with
      | none => .ok (some e)
      | some b =>
        if b.seconds * 1000000000 < window then
          .error (.rejected "required_valid_until"
            (.validityTooLong (window.tdiv 1000000000) b.seconds))
        else .ok (some e)

end MetadataTrust
