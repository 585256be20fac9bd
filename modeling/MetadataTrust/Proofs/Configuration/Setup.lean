import MetadataTrust.Configuration.Document
import MetadataTrust.Configuration.Form
import MetadataTrust.Proofs.Configuration.Chain

/-!
# Setting up what was checked

A configuration is checked when it is read, and its filters are set up later.  `FilterSettings.FailsWith`
says what can still go wrong then: the engine of a script is unknown, its file is not readable, it does
not compile, or a validity is out of range.  The last is an oversight: a validity is checked to be
positive, but it is also bounded from above.  `Configuration.chain_of_document` says which chain comes
out, or which failure.
-/

namespace MetadataTrust

/-- Why the script of checked settings gives no policy.  That there is an engine comes first. -/
inductive ScriptSettings.FailsWith (s : ScriptSettings) (parts : FilterParts) (engine : String) :
    MetadataError → Prop
  | unknownEngine (h : parts.engines.get? (s.engine.getD engine) = none) :
    FailsWith s parts engine (.config (.unknownEngine (s.engine.getD engine)))
  | unreadable {e : ScriptEngine} {path : String}
    (h : parts.engines.get? (s.engine.getD engine) = some e) (hsource : s.source = .ok (.file path))
    (htext : parts.files.text? path = none) :
    FailsWith s parts engine (.config (.unreadableScript path))
  | notCompiled {e : ScriptEngine} {source : ScriptSource} {text : String} {fault : ScriptFault}
    (h : parts.engines.get? (s.engine.getD engine) = some e) (hsource : s.source = .ok source)
    (htext : source.load parts.files = .ok text) (hcompile : e.compile text = .error fault) :
    FailsWith s parts engine (.script (s.engine.getD engine) fault)

/-- Why no filter can be set up from checked settings. -/
inductive FilterSettings.FailsWith (parts : FilterParts) (engine : String) :
    FilterSettings → MetadataError → Prop
  | script {required : Bool} {names : List String} {s : ScriptSettings} {err : MetadataError}
    (h : s.FailsWith parts engine err) :
    FailsWith parts engine (.signatureValidation required names (some s)) err
  | tooLong {n : Int} (h : 9223372036854775 < n) :
    FailsWith parts engine (.requiredExpiry (some n)) (.config (.validityOutOfRange n))

section Script

variable {s : ScriptSettings} {parts : FilterParts} {engine : String} {err : MetadataError}

lemma ScriptSource.load_eq_error_iff {source : ScriptSource} {files : Files} {fault : ConfigFault} :
    source.load files = .error fault ↔
      ∃ path, source = .file path ∧ files.text? path = none ∧ fault = .unreadableScript path := by
  unfold load
  cases source with
  | inline text => simp
  | file path =>
    cases h : files.text? path with
    | none => simp [h, eq_comm]
    | some text => simp [h]

/-- With an engine, the text comes first and then the compilation. -/
lemma ScriptedPolicy.compile_eq_error_iff {files : Files} {engines : EngineRegistry} {e : ScriptEngine}
    {source : ScriptSource} {custom : Json} (he : engines.get? engine = some e) :
    compile files engines engine source custom = .error err ↔
      (∃ fault, source.load files = .error fault ∧ .config fault = err) ∨
        ∃ text fault, source.load files = .ok text ∧ e.compile text = .error fault ∧
          .script engine fault = err := by
  unfold compile
  simp only [he]
  rw [Except.bind_eq_error_iff, Except.mapError_eq_error_iff]
  refine or_congr_right (exists_congr fun text => ?_)
  rw [Except.mapError_eq_ok_iff, Except.bind_eq_error_iff, Except.mapError_eq_error_iff]
  constructor
  · rintro ⟨htext, ⟨fault, hcompile, rfl⟩ | ⟨script, -, h⟩⟩
    · exact ⟨fault, htext, hcompile, rfl⟩
    · exact absurd h Except.pure_ne_error
  · rintro ⟨fault, htext, hcompile, rfl⟩
    exact ⟨htext, .inl ⟨fault, hcompile, rfl⟩⟩

/-- **A script that names its place gives no policy just for one of these reasons.** -/
theorem ScriptSettings.compile_eq_error_iff {source : ScriptSource} (hsource : s.source = .ok source) :
    s.compile parts engine = .error err ↔ s.FailsWith parts engine err := by
  have hcompile : s.compile parts engine = ScriptedPolicy.compile parts.files parts.engines
      (s.engine.getD engine) source (s.custom.getD .null) := by
    unfold compile
    rw [hsource]
    rfl
  rw [hcompile]
  cases he : parts.engines.get? (s.engine.getD engine) with
  | none =>
    have hunknown : ScriptedPolicy.compile parts.files parts.engines (s.engine.getD engine) source
        (s.custom.getD .null) = .error (.config (.unknownEngine (s.engine.getD engine))) := by
      unfold ScriptedPolicy.compile
      rw [he]
    rw [hunknown]
    constructor
    · rintro ⟨⟩
      exact .unknownEngine he
    · rintro (_ | ⟨h, -, -⟩ | ⟨h, -, -, -⟩)
      · rfl
      · exact absurd (he.symm.trans h) nofun
      · exact absurd (he.symm.trans h) nofun
  | some e =>
    rw [ScriptedPolicy.compile_eq_error_iff he]
    constructor
    · rintro (⟨fault, hload, rfl⟩ | ⟨text, fault, hload, hfault, rfl⟩)
      · obtain ⟨path, rfl, htext, rfl⟩ := ScriptSource.load_eq_error_iff.1 hload
        exact .unreadable he hsource htext
      · exact .notCompiled he hsource hload hfault
    · rintro (h | ⟨h, hfile, htext⟩ | ⟨h, hsource', hload, hfault⟩)
      · exact absurd (he.symm.trans h) nofun
      · obtain rfl := Except.ok.inj (hsource.symm.trans hfile)
        exact .inl ⟨_, ScriptSource.load_eq_error_iff.2 ⟨_, rfl, htext, rfl⟩, rfl⟩
      · obtain rfl := Except.ok.inj (hsource.symm.trans hsource')
        obtain rfl := Option.some.inj (he.symm.trans h)
        exact .inr ⟨_, _, hload, hfault, rfl⟩

/-- A script is never the reason that a length is out of range. -/
lemma ScriptSettings.FailsWith.ne_outOfRange (h : s.FailsWith parts engine err) (n : Int) :
    err ≠ .config (.validityOutOfRange n) := by
  cases h <;> nofun

end Script

/-! ### One filter -/

section Build

variable {settings : FilterSettings} {parts : FilterParts} {engine : String} {err : MetadataError}
  {f : MetadataFilter}

lemma ValidityBound.ofSeconds?_eq_none_iff {n : Int} (hpos : 0 < n) :
    ofSeconds? n = none ↔ 9223372036854775 < n := by
  unfold ofSeconds?
  rw [dite_eq_right_iff]
  constructor
  · intro h
    by_contra hle
    cases h ⟨by omega, by omega⟩
  · intro h hrange
    omega

lemma build_script_eq_error_iff {required : Bool} {names : List String} {s : ScriptSettings} :
    (FilterSettings.signatureValidation required names (some s)).build parts engine = .error err ↔
      s.compile parts engine = .error err := by
  simp only [FilterSettings.build, Option.mapM_some]
  cases s.compile parts engine with
  | error e =>
    constructor
    · intro h
      rw [Except.error.inj h]
    · intro h
      rw [Except.error.inj h]
      rfl
  | ok policy =>
    constructor
    · intro h
      cases h
    · intro h
      cases h

lemma build_requiredExpiry_eq_error_iff {n : Int} :
    (FilterSettings.requiredExpiry (some n)).build parts engine = .error err ↔
      ValidityBound.ofSeconds? n = none ∧ .config (.validityOutOfRange n) = err := by
  simp only [FilterSettings.build]
  cases ValidityBound.ofSeconds? n with
  | none =>
    rw [and_iff_right rfl]
    exact ⟨Except.error.inj, congrArg Except.error⟩
  | some bound =>
    constructor
    · intro h
      cases h
    · rintro ⟨h, -⟩
      cases h

/-- **Checked settings give no filter just for one of these reasons.** -/
theorem FilterSettings.build_eq_error_iff (hchecked : settings.fault? = none) :
    settings.build parts engine = .error err ↔ settings.FailsWith parts engine err := by
  cases settings with
  | signatureValidation required names script =>
    cases script with
    | none => exact iff_of_false nofun nofun
    | some s =>
      rw [build_script_eq_error_iff]
      obtain ⟨source, hsource⟩ | ⟨fault, hsource⟩ := s.source.ok_or_error
      · rw [ScriptSettings.compile_eq_error_iff hsource]
        constructor
        · exact .script
        · rintro ⟨⟩
          assumption
      · simp only [fault?, hsource] at hchecked
        cases hchecked
  | roleSelection retained dropRoleless => exact iff_of_false nofun nofun
  | requiredExpiry maxSeconds =>
    cases maxSeconds with
    | none => exact iff_of_false nofun nofun
    | some n =>
      have hpos : 0 < n := by
        by_contra hle
        have hfault : (FilterSettings.requiredExpiry (some n)).fault? = some .validityNotPositive :=
          if_pos (Int.not_lt.1 hle)
        cases hfault.symm.trans hchecked
      rw [build_requiredExpiry_eq_error_iff, ValidityBound.ofSeconds?_eq_none_iff hpos]
      constructor
      · rintro ⟨hlong, rfl⟩
        exact .tooLong hlong
      · rintro ⟨⟩
        exact ⟨by assumption, rfl⟩
  | entityIds included excluded => exact iff_of_false nofun nofun

/-- A filter bears the name of the kind of its settings. -/
lemma FilterSettings.build_name (h : settings.build parts engine = .ok f) : f.name = settings.kind := by
  cases settings with
  | signatureValidation required names script =>
    obtain ⟨policy, -, rfl⟩ := build_signatureValidation_eq_ok_iff.1 h
    rfl
  | roleSelection retained dropRoleless =>
    obtain rfl := Except.pure_eq_ok_iff.1 h
    rfl
  | requiredExpiry maxSeconds =>
    cases maxSeconds with
    | none =>
      obtain rfl := Except.pure_eq_ok_iff.1 h
      rfl
    | some n =>
      simp only [build] at h
      split at h
      · obtain rfl := Except.pure_eq_ok_iff.1 h
        rfl
      · cases h
  | entityIds included excluded =>
    obtain rfl := Except.pure_eq_ok_iff.1 h
    rfl

end Build

/-! ### The chain -/

namespace Configuration

variable {c : Configuration} {parts : FilterParts} {err : MetadataError}

/-- What was read from a document was checked. -/
lemma validate_of_ofDocument {document : String} (h : ofDocument document = .ok c) :
    c.validate = .ok () := by
  unfold ofDocument at h
  cases htext : ofText? document with
  | none =>
    rw [htext] at h
    cases h
  | some c' =>
    rw [htext] at h
    obtain ⟨hvalid, h⟩ := Except.unit_bind_eq_ok_iff.1 h
    obtain rfl := Except.pure_eq_ok_iff.1 h
    exact hvalid

lemma checked_of_validate (h : c.validate = .ok ()) :
    ∀ settings ∈ c.filters, settings.fault? = none := by
  have hfault : c.fault? = none := by
    unfold validate at h
    cases hfault : c.fault? with
    | none => rfl
    | some fault =>
      rw [hfault] at h
      cases h
  unfold fault? at hfault
  split at hfault
  · cases hfault
  split at hfault
  · cases hfault
  exact List.findSome?_eq_none_iff.1 hfault

/-- Setting up comes to the settings: there is no reason against any before them. -/
def ComesTo (c : Configuration) (parts : FilterParts) (settings : FilterSettings) : Prop :=
  ∃ before after, c.filters = before ++ settings :: after ∧
    ∀ earlier ∈ before, ∀ err, ¬ earlier.FailsWith parts c.defaultEngine err

/-- Checked settings can be set up unless there is a reason against it. -/
lemma exists_build_iff {settings : FilterSettings} {engine : String}
    (hchecked : settings.fault? = none) :
    (∃ f, settings.build parts engine = .ok f) ↔ ∀ err, ¬ settings.FailsWith parts engine err := by
  constructor
  · rintro ⟨f, hf⟩ err hfails
    rw [(FilterSettings.build_eq_error_iff hchecked).2 hfails] at hf
    cases hf
  · intro h
    obtain hf | ⟨err, herr⟩ := (settings.build parts engine).ok_or_error
    · exact hf
    · exact absurd ((FilterSettings.build_eq_error_iff hchecked).1 herr) (h err)

lemma chain_eq_error_iff :
    c.chain parts = .error err ↔ c.filters.mapM (·.build parts c.defaultEngine) = .error err := by
  unfold chain
  rw [Except.bind_eq_error_iff]
  exact or_iff_left fun ⟨_, _, h⟩ => Except.pure_ne_error h

/-- **Setting up fails for the first settings that there is a reason against.** -/
theorem chain_fails_iff (hchecked : ∀ settings ∈ c.filters, settings.fault? = none) :
    c.chain parts = .error err ↔
      ∃ settings, c.ComesTo parts settings ∧ settings.FailsWith parts c.defaultEngine err := by
  rw [chain_eq_error_iff, Except.mapM_eq_error_iff]
  have hsides (before : List FilterSettings) (settings : FilterSettings) (after : List FilterSettings)
      (hsplit : c.filters = before ++ settings :: after) :
      ((∀ earlier ∈ before, ∃ f, earlier.build parts c.defaultEngine = .ok f) ∧
        settings.build parts c.defaultEngine = .error err) ↔
      ((∀ earlier ∈ before, ∀ err, ¬ earlier.FailsWith parts c.defaultEngine err) ∧
        settings.FailsWith parts c.defaultEngine err) := by
    rw [hsplit] at hchecked
    refine and_congr (forall₂_congr fun earlier hearlier => ?_) ?_
    · exact exists_build_iff (hchecked earlier (List.mem_append_left _ hearlier))
    · exact FilterSettings.build_eq_error_iff (hchecked settings (by simp))
  constructor
  · rintro ⟨before, settings, after, hsplit, h⟩
    obtain ⟨hbefore, hfails⟩ := (hsides before settings after hsplit).1 h
    exact ⟨settings, ⟨before, after, hsplit, hbefore⟩, hfails⟩
  · rintro ⟨settings, ⟨before, after, hsplit, hbefore⟩, hfails⟩
    exact ⟨before, settings, after, hsplit, (hsides before settings after hsplit).2 ⟨hbefore, hfails⟩⟩

lemma chain_succeeds_iff (hchecked : ∀ settings ∈ c.filters, settings.fault? = none) :
    (∃ chain, c.chain parts = .ok chain) ↔
      ∀ settings ∈ c.filters, ∀ err, ¬ settings.FailsWith parts c.defaultEngine err := by
  constructor
  · rintro ⟨chain, hchain⟩ settings hmem
    obtain ⟨before, after, hsplit⟩ := List.append_of_mem hmem
    obtain ⟨-, f, -, -, hf, -⟩ := chain_split hchain hsplit
    exact (exists_build_iff (hchecked settings hmem)).1 ⟨f, hf⟩
  · intro h
    obtain hchain | ⟨err, herr⟩ := (c.chain parts).ok_or_error
    · exact hchain
    · obtain ⟨settings, ⟨before, after, hsplit, -⟩, hfails⟩ := (chain_fails_iff hchecked).1 herr
      exact absurd hfails (h settings (by simp [hsplit]) err)

lemma chain_outOfRange_iff (hchecked : ∀ settings ∈ c.filters, settings.fault? = none) {n : Int} :
    c.chain parts = .error (.config (.validityOutOfRange n)) ↔
      c.ComesTo parts (.requiredExpiry (some n)) ∧ 9223372036854775 < n := by
  rw [chain_fails_iff hchecked]
  constructor
  · rintro ⟨settings, hcomes, hfails⟩
    -- the error is an index of `FailsWith`, so it must be a variable before the cases
    generalize herr : MetadataError.config (.validityOutOfRange n) = err at hfails
    cases hfails with
    | script h => exact absurd herr.symm (h.ne_outOfRange n)
    | tooLong h =>
      cases herr
      exact ⟨hcomes, h⟩
  · rintro ⟨hcomes, hlong⟩
    exact ⟨_, hcomes, .tooLong hlong⟩

/-- **What a configuration that was read sets up.**  The chain has the filter of each of the settings, in
their order, and aborts as configured.  If there is none, the failure is that of the first settings that
there is a reason against.  As long as no validity is out of range, the reason is always a script: its
engine is unknown, its file is not readable, or it does not compile.  A validity out of range passes the
check and fails then, unless settings before it do. -/
theorem chain_of_document {document : String} (hread : ofDocument document = .ok c)
    (parts : FilterParts) :
    let fails := FilterSettings.FailsWith parts c.defaultEngine
    ((∃ chain, c.chain parts = .ok chain) ↔ ∀ settings ∈ c.filters, ∀ err, ¬ fails settings err) ∧
    (∀ chain, c.chain parts = .ok chain →
      List.Forall₂ (fun settings f => settings.build parts c.defaultEngine = .ok f ∧
        f.name = settings.kind) c.filters chain.filters ∧
      chain.abortOnError = c.abortOnFilterError) ∧
    (∀ err, c.chain parts = .error err ↔
      ∃ settings, c.ComesTo parts settings ∧ fails settings err) ∧
    ((∀ n, .requiredExpiry (some n) ∈ c.filters → n ≤ 9223372036854775) →
      ∀ err, c.chain parts = .error err → ∃ required names script,
        c.ComesTo parts (.signatureValidation required names (some script)) ∧
        script.FailsWith parts c.defaultEngine err) ∧
    ∀ n, c.chain parts = .error (.config (.validityOutOfRange n)) ↔
      c.ComesTo parts (.requiredExpiry (some n)) ∧ 9223372036854775 < n := by
  intro fails
  have hchecked := checked_of_validate (validate_of_ofDocument hread)
  refine ⟨chain_succeeds_iff hchecked, ?_, fun err => chain_fails_iff hchecked, ?_,
    fun n => chain_outOfRange_iff hchecked⟩
  · intro chain hchain
    obtain ⟨hbuild, habort⟩ := chain_eq_ok_iff.1 hchain
    refine ⟨(Except.mapM_eq_ok_iff.1 hbuild).imp fun settings f hf => ?_, habort⟩
    exact ⟨hf, FilterSettings.build_name hf⟩
  · intro hbound err herr
    obtain ⟨settings, hcomes, hfails⟩ := (chain_fails_iff hchecked).1 herr
    cases hfails with
    | script h => exact ⟨_, _, _, hcomes, h⟩
    | tooLong h =>
      obtain ⟨before, after, hsplit, -⟩ := hcomes
      have hle := hbound _ (hsplit ▸ List.mem_append_right before List.mem_cons_self)
      omega

end Configuration

/-! ### The longest validity, and a second more -/

namespace SetupSample

/-- A document with a filter for validities of at most so many seconds. -/
def document (seconds : String) : String :=
  "filters: [\x7btype: required_valid_until, max_validity_secs: " ++ seconds ++ "\x7d]"

/-- What the document says. -/
def configuration (seconds : Int) : Configuration where
  filters := [.requiredExpiry (some seconds)]

def parts : FilterParts where
  credentials := fun _ => .ok []

lemma ofDocument_longest :
    Configuration.ofDocument (document "9223372036854775") = .ok (configuration 9223372036854775) := by
  decide +kernel

lemma ofDocument_longer :
    Configuration.ofDocument (document "9223372036854776") = .ok (configuration 9223372036854776) := by
  decide +kernel

/-- The longest validity is set up. -/
theorem longest_succeeds :
    Configuration.ofDocument (document "9223372036854775") = .ok (configuration 9223372036854775) ∧
    ∃ chain, (configuration 9223372036854775).chain parts = .ok chain := by
  refine ⟨ofDocument_longest, (Configuration.chain_of_document ofDocument_longest parts).1.2 ?_⟩
  intro settings hmem err hfails
  obtain rfl := List.mem_singleton.1 hmem
  cases hfails with
  | tooLong h => omega

/-- A validity that is a second longer passes the check and fails when it is set up. -/
theorem longer_passes_check_and_fails :
    Configuration.ofDocument (document "9223372036854776") = .ok (configuration 9223372036854776) ∧
    (configuration 9223372036854776).chain parts =
      .error (.config (.validityOutOfRange 9223372036854776)) :=
  ⟨ofDocument_longer, rfl⟩

end SetupSample

end MetadataTrust
