import MetadataTrust.Filter.Trimming
import MetadataTrust.Proofs.Filter.Chain
import MetadataTrust.Proofs.Signature.Acceptance

/-!
# Filters take roles out and change nothing else

Every filter of this library passes an entity on with some of its roles, in their order, and with all
else as it was.  So does a chain of them.
-/

namespace MetadataTrust

/-! ### Fewer roles -/

/-- `e'` is `e` without some of its roles. -/
structure Entity.Trims (e' e : Entity) : Prop where
  roles : e'.roles.Sublist e.roles
  rest : e' = { e with roles := e'.roles }

namespace Entity.Trims

variable {a b c : Entity}

lemma refl (e : Entity) : e.Trims e := ⟨.refl _, rfl⟩

lemma trans (h : a.Trims b) (h' : b.Trims c) : a.Trims c :=
  ⟨h.roles.trans h'.roles, by rw [h.rest, h'.rest]⟩

lemma filter (e : Entity) (p : Role → Bool) :
    Entity.Trims { e with roles := e.roles.filter p } e :=
  ⟨List.filter_sublist, rfl⟩

lemma entityId_eq (h : a.Trims b) : a.entityId = b.entityId := by rw [h.rest]
lemma id_eq (h : a.Trims b) : a.id = b.id := by rw [h.rest]
lemma validUntil_eq (h : a.Trims b) : a.validUntil = b.validUntil := by rw [h.rest]
lemma signature_eq (h : a.Trims b) : a.signature = b.signature := by rw [h.rest]

end Entity.Trims

/-! ### Filters that only trim -/

/-- The filter passes entities on with nothing changed but roles taken out. -/
def MetadataFilter.OnlyTrims (f : MetadataFilter) : Prop :=
  ∀ now e e', f.apply now e = .ok (some e') → e'.Trims e

theorem SignatureValidation.filter_onlyTrims (v : SignatureValidation) : v.filter.OnlyTrims := by
  intro now e e' h
  obtain ⟨-, he'⟩ := apply_eq_ok_iff.1 h
  obtain rfl := Option.some.inj he'
  exact .filter e _

theorem EntityIdPredicate.filter_onlyTrims (p : EntityIdPredicate) : p.filter.OnlyTrims := by
  intro now e e' h
  by_cases hp : p.admits e.entityId
  · obtain rfl : e = e' := by simpa [filter, hp] using h
    exact .refl e
  · simp [filter, hp] at h

theorem RoleSelection.filter_onlyTrims (s : RoleSelection) : s.filter.OnlyTrims := by
  intro now e e' h
  simp only [filter, Except.ok.injEq, Option.ite_none_left_eq_some, Option.some.injEq] at h
  obtain ⟨-, rfl⟩ := h
  exact .filter e _

theorem requiredExpiry_eq_ok_iff {bound : Option ValidityBound} {now : Instant} {e : Entity}
    {out : Option Entity} :
    (requiredExpiry bound).apply now e = .ok out ↔
      out = some e ∧ ∃ expiry, e.validUntil = some expiry ∧
        ∀ b ∈ bound, expiry.totalNanos - now.totalNanos ≤ b.seconds * 1000000000 := by
  cases hexpiry : e.validUntil with
  | none => simp [requiredExpiry, hexpiry]
  | some expiry =>
    cases bound with
    | none => simp [requiredExpiry, hexpiry, eq_comm]
    | some b =>
      by_cases hlong : b.seconds * 1000000000 < expiry.totalNanos - now.totalNanos
      · simp only [requiredExpiry, hexpiry, if_pos hlong, reduceCtorEq, false_iff]
        rintro ⟨-, expiry', heq, hbound⟩
        obtain rfl := Option.some.inj heq
        exact absurd hlong (Int.not_lt.2 (hbound b rfl))
      · simp only [requiredExpiry, hexpiry, if_neg hlong, Except.ok.injEq]
        constructor
        · rintro rfl
          refine ⟨rfl, expiry, rfl, fun b' hb' => ?_⟩
          obtain rfl := Option.some.inj hb'
          exact Int.not_lt.1 hlong
        · rintro ⟨rfl, -⟩
          rfl

theorem requiredExpiry_onlyTrims (bound : Option ValidityBound) :
    (requiredExpiry bound).OnlyTrims := by
  intro now e e' h
  obtain ⟨he', -⟩ := requiredExpiry_eq_ok_iff.1 h
  obtain rfl := Option.some.inj he'
  exact .refl e'

/-- A chain of filters that only trim only trims. -/
theorem FilterChain.run_trims {abort : Bool} {now : Instant} {fs : List MetadataFilter}
    {e e' : Entity} (hfs : ∀ f ∈ fs, f.OnlyTrims) (h : run abort now fs e = .ok (some e')) :
    e'.Trims e :=
  run_rel .refl .trans (fun f hf e e' he' => hfs f hf now e e' he') h

end MetadataTrust
