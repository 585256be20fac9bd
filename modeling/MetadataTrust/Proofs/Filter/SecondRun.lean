import MetadataTrust.Proofs.Filter.Trimming

/-!
# Chains that see their own results

A filter that looks at one entity alone passes on unchanged what it has passed on before.  A chain of
such filters does so too, with one exception (`LocalFilter.chain_again`).  Each selection of roles says for
itself whether it drops entities without roles.  Where one does and a later one does not, an entity can
come through the first with its last role and lose that in the second; when it comes again, the first
drops it.
-/

namespace MetadataTrust

/-- A filter that looks at one entity alone. -/
inductive LocalFilter where
  | entityIds (p : EntityIdPredicate)
  | roles (s : RoleSelection)
  | expiry (bound : Option ValidityBound)

namespace LocalFilter

/-- The filter in a chain. -/
def filter : LocalFilter → MetadataFilter
  | .entityIds p => p.filter
  | .roles s => s.filter
  | .expiry bound => requiredExpiry bound

/-- Whether it drops every entity without roles. -/
def dropsRoleless : LocalFilter → Bool
  | .roles s => s.dropRoleless
  | .entityIds _ | .expiry _ => false

/-- Whether it passes entities on that it has left without roles. -/
def leavesRoleless : LocalFilter → Bool
  | .roles s => !s.dropRoleless
  | .entityIds _ | .expiry _ => false

/-- The chain of the filters. -/
def chain (fs : List LocalFilter) (abort : Bool) : FilterChain := ⟨fs.map filter, abort⟩

variable {f : LocalFilter} {fs : List LocalFilter} {abort : Bool} {now : Instant} {e m g : Entity}

/-! ### One filter -/

lemma filter_onlyTrims (f : LocalFilter) : f.filter.OnlyTrims := by
  cases f with
  | entityIds p => exact p.filter_onlyTrims
  | roles s => exact s.filter_onlyTrims
  | expiry bound => exact requiredExpiry_onlyTrims bound

lemma roles_apply_eq_ok_some_iff {s : RoleSelection} :
    s.filter.apply now e = .ok (some m) ↔
      m = { e with roles := e.roles.filter s.keeps } ∧ (m.roles = [] → s.dropRoleless = false) := by
  simp only [RoleSelection.filter, Except.ok.injEq, Option.ite_none_left_eq_some, Option.some.injEq,
    Bool.and_eq_true, List.isEmpty_iff, not_and, Bool.not_eq_true]
  constructor
  · rintro ⟨hdrop, rfl⟩
    exact ⟨rfl, hdrop⟩
  · rintro ⟨rfl, hdrop⟩
    exact ⟨hdrop, rfl⟩

/-- **What a filter passed on comes through it again**, also with fewer roles, as long as it need not
be dropped for having none. -/
lemma apply_again (h : f.filter.apply now e = .ok (some m)) (htrims : g.Trims m)
    (hroles : g.roles = [] → f.dropsRoleless = false) : f.filter.apply now g = .ok (some g) := by
  cases f with
  | entityIds p =>
    have hadmits : p.admits e.entityId = true ∧ e = m := by
      simpa [filter, EntityIdPredicate.filter] using h
    obtain ⟨hadmits, rfl⟩ := hadmits
    simp [filter, EntityIdPredicate.filter, htrims.entityId_eq, hadmits]
  | roles s =>
    obtain ⟨rfl, -⟩ := roles_apply_eq_ok_some_iff.1 h
    refine roles_apply_eq_ok_some_iff.2 ⟨?_, hroles⟩
    have hkeeps : ∀ r ∈ g.roles, s.keeps r = true := by
      intro r hr
      exact (List.mem_filter.1 (htrims.roles.subset hr)).2
    rw [List.filter_eq_self.2 hkeeps]
  | expiry bound =>
    obtain ⟨-, expiry, hexpiry, hbound⟩ := requiredExpiry_eq_ok_iff.1 h
    have hm : m.Trims e := requiredExpiry_onlyTrims bound now e m h
    refine requiredExpiry_eq_ok_iff.2 ⟨rfl, expiry, ?_, hbound⟩
    rw [htrims.validUntil_eq, hm.validUntil_eq, hexpiry]

lemma apply_roleless (hdrops : f.dropsRoleless = true) (hroles : g.roles = []) :
    f.filter.apply now g = .ok none := by
  cases f with
  | roles s =>
    have hdrop : s.dropRoleless = true := hdrops
    simp [filter, RoleSelection.filter, hroles, hdrop]
  | entityIds p => cases hdrops
  | expiry bound => cases hdrops

/-- Only a filter that leaves entities without roles takes the last role out. -/
lemma roles_ne_nil_of_apply (h : f.filter.apply now e = .ok (some m))
    (hf : f.dropsRoleless = true ∨ f.leavesRoleless = false ∧ e.roles ≠ []) : m.roles ≠ [] := by
  cases f with
  | entityIds p =>
    obtain ⟨-, rfl⟩ : p.admits e.entityId = true ∧ e = m := by
      simpa [filter, EntityIdPredicate.filter] using h
    exact (hf.resolve_left Bool.false_ne_true).2
  | roles s =>
    obtain ⟨-, hdrop⟩ := roles_apply_eq_ok_some_iff.1 h
    intro hm
    have hkept := hdrop hm
    rcases hf with hf | ⟨hf, -⟩
    · cases hf.symm.trans hkept
    · simp [leavesRoleless, hkept] at hf
  | expiry bound =>
    obtain ⟨hm, -⟩ := requiredExpiry_eq_ok_iff.1 h
    obtain rfl := Option.some.inj hm
    exact (hf.resolve_left Bool.false_ne_true).2

/-! ### The chain -/

lemma run_trims (h : FilterChain.run abort now (fs.map filter) e = .ok (some m)) : m.Trims e := by
  refine FilterChain.run_trims (fun f' hf' => ?_) h
  obtain ⟨f, -, rfl⟩ := List.mem_map.1 hf'
  exact f.filter_onlyTrims

/-- The run lemma: what a chain passed on comes through it again, also with fewer roles. -/
lemma run_again (h : FilterChain.run abort now (fs.map filter) e = .ok (some m)) (htrims : g.Trims m)
    (hroles : g.roles = [] → ∀ f ∈ fs, f.dropsRoleless = false) :
    FilterChain.run abort now (fs.map filter) g = .ok (some g) := by
  induction fs generalizing e with
  | nil => rfl
  | cons f fs ih =>
    obtain ⟨next, hnext, hrest⟩ := FilterChain.run_cons_eq_ok_some_iff.1 h
    have hg : f.filter.apply now g = .ok (some g) :=
      apply_again hnext (htrims.trans (run_trims hrest)) fun hnil => hroles hnil f List.mem_cons_self
    rw [List.map_cons, FilterChain.run_cons_of_ok hg]
    exact ih hrest fun hnil f' hf' => hroles hnil f' (List.mem_cons_of_mem _ hf')

/-- Without roles it comes as far as the first filter that drops it for that. -/
lemma run_roleless (h : FilterChain.run abort now (fs.map filter) e = .ok (some m))
    (hroles : m.roles = []) (hdrops : ∃ f ∈ fs, f.dropsRoleless = true) :
    FilterChain.run abort now (fs.map filter) m = .ok none := by
  induction fs generalizing e with
  | nil => simp at hdrops
  | cons f fs ih =>
    obtain ⟨next, hnext, hrest⟩ := FilterChain.run_cons_eq_ok_some_iff.1 h
    by_cases hf : f.dropsRoleless = true
    · simp [FilterChain.run, apply_roleless hf hroles]
    · have hm : f.filter.apply now m = .ok (some m) :=
        apply_again hnext (run_trims hrest) fun _ => Bool.not_eq_true _ ▸ hf
      rw [List.map_cons, FilterChain.run_cons_of_ok hm]
      obtain ⟨f', hf', hdrops'⟩ := hdrops
      rcases List.mem_cons.1 hf' with rfl | hf'
      · exact absurd hdrops' hf
      · exact ih hrest ⟨f', hf', hdrops'⟩

lemma run_roles_ne_nil (h : FilterChain.run abort now (fs.map filter) e = .ok (some m))
    (he : e.roles ≠ []) (hfs : ∀ f ∈ fs, f.leavesRoleless = false) : m.roles ≠ [] := by
  induction fs generalizing e with
  | nil =>
    obtain rfl : e = m := by simpa using h
    exact he
  | cons f fs ih =>
    obtain ⟨next, hnext, hrest⟩ := FilterChain.run_cons_eq_ok_some_iff.1 h
    obtain ⟨hf, hfs⟩ := List.forall_mem_cons.1 hfs
    exact ih hrest (roles_ne_nil_of_apply hnext (.inr ⟨hf, he⟩)) hfs

/-- Where nothing that leaves entities without roles comes after what drops them, a result without
roles is one that nothing drops. -/
lemma not_dropsRoleless_of_run (h : FilterChain.run abort now (fs.map filter) e = .ok (some m))
    (hroles : m.roles = [])
    (horder : fs.Pairwise fun f f' => f.dropsRoleless = true → f'.leavesRoleless = false) :
    ∀ f ∈ fs, f.dropsRoleless = false := by
  induction fs generalizing e with
  | nil => simp
  | cons f fs ih =>
    obtain ⟨next, hnext, hrest⟩ := FilterChain.run_cons_eq_ok_some_iff.1 h
    obtain ⟨hafter, horder⟩ := List.pairwise_cons.1 horder
    refine List.forall_mem_cons.2 ⟨?_, ih hrest horder⟩
    by_contra hdrops
    have hdrops : f.dropsRoleless = true := by simpa using hdrops
    have hnext : next.roles ≠ [] := roles_ne_nil_of_apply hnext (.inl hdrops)
    exact run_roles_ne_nil hrest hnext (fun f' hf' => hafter f' hf' hdrops) hroles

/-- **A chain of local filters passes on unchanged what it has passed on**, unless that has no roles and
some selection of the chain drops entities without roles: then the chain drops it.  That cannot happen
where no selection that leaves entities without roles stands after one that drops them. -/
theorem chain_again (h : (chain fs abort).apply now e = .ok (some m)) :
    ((chain fs abort).apply now m = .ok (some m) ↔
      (m.roles = [] → ∀ f ∈ fs, f.dropsRoleless = false)) ∧
    ((chain fs abort).apply now m = .ok none ↔
      m.roles = [] ∧ ∃ f ∈ fs, f.dropsRoleless = true) ∧
    ((fs.Pairwise fun f f' => f.dropsRoleless = true → f'.leavesRoleless = false) →
      (chain fs abort).apply now m = .ok (some m)) := by
  have hagain : (m.roles = [] → ∀ f ∈ fs, f.dropsRoleless = false) →
      (chain fs abort).apply now m = .ok (some m) := run_again h (.refl m)
  by_cases hdropped : m.roles = [] ∧ ∃ f ∈ fs, f.dropsRoleless = true
  · obtain ⟨hroles, f, hf, hdrops⟩ := hdropped
    have hnone : (chain fs abort).apply now m = .ok none := run_roleless h hroles ⟨f, hf, hdrops⟩
    refine ⟨?_, iff_of_true hnone ⟨hroles, f, hf, hdrops⟩, fun horder => ?_⟩
    · refine iff_of_false (by simp [hnone]) fun hkeeps => ?_
      cases hdrops.symm.trans (hkeeps hroles f hf)
    · exact hagain fun _ => not_dropsRoleless_of_run h hroles horder
  · have hkeeps : m.roles = [] → ∀ f ∈ fs, f.dropsRoleless = false := by
      intro hroles f hf
      by_contra hdrops
      exact hdropped ⟨hroles, f, hf, by simpa using hdrops⟩
    have hsome := hagain hkeeps
    exact ⟨iff_of_true hsome hkeeps, iff_of_false (by simp [hsome]) hdropped, fun _ => hsome⟩

end LocalFilter

/-! ### Two selections that disagree about entities without roles -/

namespace SecondRunSample

def idp : QName := ⟨"urn:md", "IDP", none⟩

def sp : QName := ⟨"urn:md", "SP", none⟩

def morning : Instant := ⟨⟨2031, 3, 1⟩, 8, 30, 0, 0, by decide, by decide⟩

/-- An entity that is valid for another day. -/
def entity (roles : List QName) : Entity where
  entityId := "https://idp.example.org"
  validUntil := some { morning with date := ⟨2031, 3, 2⟩, dateValid := by decide }
  roles := roles.map fun r => { elementType := r, supportedProtocols := ["urn:p"] }

/-- The first selection drops entities without roles, and the second one leaves some. -/
def disagreeing : List LocalFilter := [.roles ⟨[idp], true⟩, .roles ⟨[sp], false⟩]

/-- The last selection drops entities without roles. -/
def agreeing : List LocalFilter :=
  [.roles ⟨[idp, sp], false⟩, .expiry (some ⟨86400, by decide⟩), .entityIds ⟨∅, ∅⟩, .roles ⟨[idp], true⟩]

/-- The entity comes through without its role, and is dropped when it comes again. -/
theorem dropped_when_seen_again :
    (LocalFilter.chain disagreeing true).apply morning (entity [idp]) = .ok (some (entity [])) ∧
    (LocalFilter.chain disagreeing true).apply morning (entity []) = .ok none := by
  constructor <;> decide +kernel

/-- Where the selections are in the right order, what is left of the entity comes through again. -/
theorem kept_when_seen_again :
    (LocalFilter.chain agreeing true).apply morning (entity [idp, sp]) = .ok (some (entity [idp])) ∧
    (LocalFilter.chain agreeing true).apply morning (entity [idp]) = .ok (some (entity [idp])) := by
  have h : (LocalFilter.chain agreeing true).apply morning (entity [idp, sp]) =
      .ok (some (entity [idp])) := by
    decide +kernel
  exact ⟨h, (LocalFilter.chain_again h).2.2 (by decide)⟩

end SecondRunSample

end MetadataTrust
