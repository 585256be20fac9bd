import MetadataTrust.Metadata.RoleResolver
import MetadataTrust.Proofs.Metadata.Listing

/-!
# Which roles are resolved

Roles are resolved from whatever entities the metadata gives.  `RoleQuery.select_eq` takes the two loops
over entities and their roles for one selection among the roles with their entities, so that each
restriction is a condition of its own: they commute, and every one of them only leaves roles out.  A store
that is asked for one identifier gives the roles that its listing has of that entity.
-/

namespace MetadataTrust

/-- The roles of entities, each with the entity that has it, in order. -/
def contributions (entities : List Entity) : List (Entity × Role) :=
  entities.flatMap fun e => e.roles.map fun r => (e, r)

/-- A role has the namespace and the local part of the name, whatever its prefix. -/
def Role.isOfType (t : QName) (r : Role) : Bool :=
  r.elementType.namespaceUri = t.namespaceUri && r.elementType.localPart = t.localPart

section Selection

variable {entities : List Entity} {q : RoleQuery}

lemma contributions_cons (e : Entity) (entities : List Entity) :
    contributions (e :: entities) = e.roles.map (fun r => (e, r)) ++ contributions entities := rfl

lemma contributions_filter (keep : Entity → Bool) (entities : List Entity) :
    contributions (entities.filter keep) = (contributions entities).filter fun x => keep x.1 := by
  induction entities with
  | nil => rfl
  | cons e entities ih =>
    have hroles : (e.roles.map fun r => (e, r)).filter (fun x => keep x.1) =
        if keep e then e.roles.map (fun r => (e, r)) else [] := by
      rw [List.filter_map]
      by_cases hkeep : keep e = true <;> simp [hkeep, Function.comp_def]
    rw [contributions_cons, List.filter_append, hroles, ← ih]
    by_cases hkeep : keep e = true
    · rw [List.filter_cons_of_pos hkeep, contributions_cons, if_pos hkeep]
    · rw [List.filter_cons_of_neg hkeep, if_neg hkeep, List.nil_append]

lemma filter_contributions (keep : Role → Bool) (entities : List Entity) :
    ((contributions entities).filter fun x => keep x.2).map Prod.snd =
      entities.flatMap fun e => e.roles.filter keep := by
  unfold contributions
  rw [List.filter_flatMap, List.map_flatMap]
  refine List.flatMap_congr fun e _ => ?_
  rw [List.filter_map, List.map_map]
  exact List.map_id _

/-- **One selection among all roles**, by conditions on the role and on the entity that has it. -/
theorem RoleQuery.select_eq (q : RoleQuery) (entities : List Entity) :
    q.select entities =
      ((contributions entities).filter fun x => q.admitsEntity x.1 && q.admitsRole x.2).map
        Prod.snd := by
  rw [select, ← filter_contributions, contributions_filter, List.filter_filter]
  simp only [Bool.and_comm]

lemma Role.same_eq_isOfType (t : QName) (r : Role) : r.elementType.same t = r.isOfType t := by
  rw [QName.same, isOfType, ← Bool.decide_and]
  exact decide_eq_decide.2 (ExpandedName.mk.injEq ..).to_iff

/-- **Each restriction is a condition of its own**, the one on validity for the entity and the role
together. -/
theorem RoleQuery.select_eq_restricted (q : RoleQuery) (entities : List Entity) :
    q.select entities =
      ((((contributions entities).filter fun x => x.2.isOfType q.elementType).filter
        fun x => q.protocol.all (· ∈ x.2.supportedProtocols)).filter
          fun x => !q.requireValid || x.1.isValidAt q.now && x.2.isValidAt q.now).map Prod.snd := by
  -- the condition on validity is asked of the entity first and of the role last
  have hconditions (required ofType speaking entity role : Bool) :
      ((!required || entity) && (ofType && speaking && (!required || role))) =
        ((!required || entity && role) && speaking && ofType) := by
    revert required ofType speaking entity role
    decide
  rw [select_eq, List.filter_filter, List.filter_filter]
  refine congrArg (List.map Prod.snd) (List.filter_congr fun x _ => ?_)
  rw [admitsEntity, admitsRole, Role.same_eq_isOfType]
  exact hconditions _ _ _ _ _

/-- A protocol leaves out the roles that do not support it. -/
lemma RoleQuery.select_protocol (q : RoleQuery) (p : String) (entities : List Entity) :
    RoleQuery.select { q with protocol := some p } entities =
      (RoleQuery.select { q with protocol := none } entities).filter
        fun r => p ∈ r.supportedProtocols := by
  unfold select
  rw [List.filter_flatMap]
  refine List.flatMap_congr fun e _ => ?_
  rw [List.filter_filter]
  refine List.filter_congr fun r _ => ?_
  simp only [admitsRole, Role.supports, Option.all_some, Option.all_none, Bool.and_true]
  rw [Bool.and_right_comm, Bool.and_comm]

/-- Every entity contributes its roles by itself. -/
lemma RoleQuery.select_eq_flatMap (q : RoleQuery) (entities : List Entity) :
    q.select entities = entities.flatMap fun e => q.select [e] := by
  induction entities with
  | nil => rfl
  | cons e entities ih =>
    rw [List.flatMap_cons, ← ih]
    unfold select
    rw [← List.flatMap_append, ← List.filter_append]
    rfl

end Selection

/-! ### Criteria -/

section Criteria

variable {metadata : Resolver Entity} {requireValid : Bool} {now : Instant} {c : Criteria} {t : QName}

lemma roleResolver_of_role (h : c.role = some t) :
    roleResolver metadata requireValid now c =
      (metadata c).map (RoleQuery.select ⟨t, c.protocol, requireValid, now⟩) := by
  rw [roleResolver, h]
  cases metadata c <;> rfl

end Criteria

/-- **Exactly the roles that are asked for.**  Without an element type a lookup of roles fails whatever the
metadata is; with one it fails exactly as the metadata does.  Otherwise it gives, of the entities that the
metadata gives and in their order, every role of that type; a protocol leaves exactly those that list it, and
validity exactly those that have not expired, nor their entities, at the one moment of the lookup.  The two
restrictions may be made in either order.  Metadata that answers alike with a protocol and without one, as
every source here does, gives for the protocol just the roles of the answer without one that list it.  A
store gives for all its entities what each of them contributes, and for one identifier what that entity
does. -/
theorem roles_resolved_exactly (metadata : Resolver Entity) (now : Instant) (c : Criteria) :
    (c.role = none →
      ∀ requireValid, roleResolver metadata requireValid now c = .error (.missing .role)) ∧
    (∀ t, c.role = some t → ∀ requireValid err,
      (roleResolver metadata requireValid now c = .error err ↔ metadata c = .error err)) ∧
    (∀ t entities, c.role = some t → metadata c = .ok entities →
      let ofType := (contributions entities).filter fun x => x.2.isOfType t
      let current := fun x : Entity × Role => x.1.isValidAt now && x.2.isValidAt now
      (c.protocol = none →
        roleResolver metadata false now c = .ok (ofType.map Prod.snd) ∧
        roleResolver metadata true now c = .ok ((ofType.filter current).map Prod.snd)) ∧
      ∀ p, c.protocol = some p →
        let speaking := fun x : Entity × Role => decide (p ∈ x.2.supportedProtocols)
        roleResolver metadata false now c = .ok ((ofType.filter speaking).map Prod.snd) ∧
        roleResolver metadata true now c =
          .ok (((ofType.filter speaking).filter current).map Prod.snd) ∧
        (ofType.filter speaking).filter current = (ofType.filter current).filter speaking) ∧
    (∀ p, metadata { c with protocol := some p } = metadata { c with protocol := none } →
      ∀ requireValid, roleResolver metadata requireValid now { c with protocol := some p } =
        (roleResolver metadata requireValid now { c with protocol := none }).map
          (List.filter fun r => p ∈ r.supportedProtocols)) ∧
    (∀ (source : MetadataSource) (p : Option String),
      source.resolver { c with protocol := p } = source.resolver c) ∧
    (∀ (s : IndexedStore) (index : EntityIndex) (t : QName), s.contents = some index → c.role = some t →
      ∀ requireValid,
        let contributed := fun e => RoleQuery.select ⟨t, c.protocol, requireValid, now⟩ [e]
        roleResolver s.resolver requireValid now { c with entityId := none } =
          .ok (index.entities.toList.flatMap contributed) ∧
        ∀ x,
          (∀ e ∈ index.entities.toList, e.entityId = x →
            roleResolver s.resolver requireValid now { c with entityId := some x } =
              .ok (contributed e)) ∧
          ((∀ e ∈ index.entities.toList, e.entityId ≠ x) →
            roleResolver s.resolver requireValid now { c with entityId := some x } = .ok [])) := by
  refine ⟨?_, ?_, ?_, ?_, ?_, ?_⟩
  · intro hrole requireValid
    rw [roleResolver, hrole]
    rfl
  · intro t hrole requireValid err
    rw [roleResolver_of_role hrole]
    cases metadata c <;> simp [Except.map]
  · intro t entities hrole hentities ofType current
    have hresult (requireValid : Bool) : roleResolver metadata requireValid now c =
        .ok (RoleQuery.select ⟨t, c.protocol, requireValid, now⟩ entities) := by
      rw [roleResolver_of_role hrole, hentities]
      rfl
    constructor
    · intro hprotocol
      rw [hresult, hresult, RoleQuery.select_eq_restricted, RoleQuery.select_eq_restricted, hprotocol]
      simp [ofType, current]
    · intro p hprotocol speaking
      rw [hresult, hresult, RoleQuery.select_eq_restricted, RoleQuery.select_eq_restricted, hprotocol]
      refine ⟨?_, ?_, List.filter_comm ..⟩ <;> simp [ofType, current, speaking]
  · intro p hsame requireValid
    obtain hrole | ⟨t, hrole⟩ := Option.eq_none_or_eq_some c.role
    · rw [roleResolver, roleResolver, hrole]
      rfl
    · have hselect := RoleQuery.select_protocol ⟨t, none, requireValid, now⟩ p
      have hrole' (protocol : Option String) :
          ({ c with protocol := protocol } : Criteria).role = some t := hrole
      rw [roleResolver_of_role (hrole' _), roleResolver_of_role (hrole' none), hsame]
      cases metadata { c with protocol := none } with
      | error err => rfl
      | ok entities => exact congrArg Except.ok (hselect entities)
  · intro source p
    exact source.resolver_congr rfl
  · intro s index t hcontents hrole requireValid contributed
    have hresult (x : Option String) :
        roleResolver s.resolver requireValid now { c with entityId := x } =
          .ok ((index.entities.toList.filter ({ c with entityId := x } : Criteria).wants).flatMap
            contributed) := by
      have hroles : ({ c with entityId := x } : Criteria).role = some t := hrole
      rw [roleResolver_of_role hroles, IndexedStore.resolver_eq hcontents]
      exact congrArg Except.ok (RoleQuery.select_eq_flatMap _ _)
    refine ⟨?_, fun x => ⟨fun e he hx => ?_, fun hnone => ?_⟩⟩
    · rw [hresult none]
      exact congrArg (fun l => Except.ok (List.flatMap contributed l)) (List.filter_true _)
    · have hone : index.entities.toList.filter ({ c with entityId := some x } : Criteria).wants = [e] :=
        hx ▸ index.snapshot.filter_entityId_of_mem he
      rw [hresult, hone, List.flatMap_singleton]
    · have hempty : index.entities.toList.filter ({ c with entityId := some x } : Criteria).wants = [] :=
        List.filter_eq_nil_iff.2 fun e he => by simpa [Criteria.wants] using hnone e he
      rw [hresult, hempty, List.flatMap_nil]

end MetadataTrust
