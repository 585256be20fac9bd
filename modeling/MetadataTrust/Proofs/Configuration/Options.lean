import MetadataTrust.Proofs.Configuration.FilterSettings
import MetadataTrust.Proofs.Tree

/-!
# Misspelled options

The options stand at three levels: those of the configuration, those of a filter, which depend on its
kind, and those of the script of a filter.  The first and the last are closed records, where a key that
names no option is an error.  The options of a filter are not: there such a key is passed over with its
value, as long as both can be read at all.  So a misspelled `require_signature` does not show.
-/

namespace MetadataTrust

open Yaml

/-! ### Levels -/

/-- A level of options; those of a filter depend on its kind. -/
inductive OptionLevel where
  | top
  | filter (kind : String)
  | script

namespace OptionLevel

/-- Whether a key names an option.  Below the top an integer names an option by its position. -/
def Recognises : OptionLevel → Node → Prop
  | top, k => (Tree.position? Configuration.memberNames k.memberName).isSome
  | filter kind, k => ∃ name, k.typedMemberName? = some name ∧
      (name = .text "type" ∨ (Tree.position? (FilterSettings.optionNames kind) name).isSome)
  | script, k => ∃ name, k.typedMemberName? = some name ∧
      (Tree.position? ScriptSettings.optionNames name).isSome

/-- Whether a member that names no option is passed over: it belongs to a filter, its key can name
something, and its value can be read. -/
def Ignores : OptionLevel → Node × Node → Prop
  | top, _ | script, _ => False
  | filter _, m => (∃ name, m.1.typedMemberName? = some name ∧ name ≠ .other) ∧ m.2.typed?.isSome

end OptionLevel

/-- A place of a document where a filter stands. -/
inductive FilterPlace : (Node → Node) → Prop
  | mk {tag inner : Option Tag} {key : Node} {before after : List (Node × Node)}
    {earlier later : List Node} (hkey : key.memberName = .text "filters") :
    FilterPlace fun f =>
      .mapping tag (before ++ (key, .sequence inner (earlier ++ f :: later)) :: after)

/-- A place of a filter where the script of its trusted names stands. -/
inductive ScriptPlace : (Node → Node) → Prop
  | named {tag : Option Tag} {key : Node} {name : MemberName} {before after : List (Node × Node)}
    (hkey : key.typedMemberName? = some name)
    (hname : Tree.position? (FilterSettings.optionNames "signature_validation") name = some 2)
    (hkind : FilterSettings.HasKind "signature_validation" (before ++ after)) :
    ScriptPlace fun s => .mapping tag (before ++ (key, s) :: after)
  | listed {tag : Option Tag} {kind required names : Node} {more : List Node}
    (hkind : kind.text? = some "signature_validation") :
    ScriptPlace fun s => .sequence tag (kind :: required :: names :: s :: more)

/-- A place of a document where a mapping with the given members holds the options of a level. -/
inductive OptionPlace : OptionLevel → List (Node × Node) → (Node → Node) → Prop
  | top {members : List (Node × Node)} : OptionPlace .top members fun n => n
  | filter {kind : String} {members : List (Node × Node)} {place : Node → Node}
    (hplace : FilterPlace place) (hkind : FilterSettings.HasKind kind members) :
    OptionPlace (.filter kind) members place
  | script {members : List (Node × Node)} {place filter : Node → Node}
    (hplace : FilterPlace place) (hfilter : ScriptPlace filter) :
    OptionPlace .script members fun s => place (filter s)

/-! ### Filters and their scripts -/

section Filter

variable {kind : String} {t : Tree} {tag : Option Tag} {members before after : List (Node × Node)}
  {place : Node → Node}

namespace FilterSettings

/-- A member that is not one of the options of the filter's kind is passed over. -/
lemma ofNode?_passedOver (hkind : HasKind kind (before ++ after)) {m : Node × Node}
    (hm : ¬ (OptionLevel.filter kind).Recognises m.1) (hreadable : (OptionLevel.filter kind).Ignores m) :
    ofNode? (.mapping tag (before ++ m :: after)) = ofNode? (.mapping tag (before ++ after)) := by
  obtain ⟨k, v⟩ := m
  obtain ⟨⟨name, hname, hnamed⟩, hvalue⟩ := hreadable
  obtain ⟨t, ht⟩ := Option.isSome_iff_exists.1 hvalue
  have hother : name ≠ .text "type" := fun h => hm ⟨name, hname, .inl h⟩
  have hposition : Tree.position? (optionNames kind) name = none := by
    rw [← Option.not_isSome_iff_eq_none]
    exact fun h => hm ⟨name, hname, .inr h⟩
  rw [ofNode?_with hkind hname hother, ofNode?_without hkind, ht]
  refine Option.bind_congr fun sides _ => ofTree?_congr ?_
  exact Tree.placed?_passedOver hposition hnamed

/-- If it cannot be read, the filter cannot. -/
lemma ofNode?_refused (hkind : HasKind kind (before ++ after)) {m : Node × Node}
    (hm : ¬ (OptionLevel.filter kind).Recognises m.1) (hreadable : ¬ (OptionLevel.filter kind).Ignores m) :
    ofNode? (.mapping tag (before ++ m :: after)) = none := by
  obtain ⟨k, v⟩ := m
  cases hname : k.typedMemberName? with
  | none =>
    have hnamed : named? (before ++ (k, v) :: after) = none := by
      refine Option.mapM_append_cons_of_eq_none ?_
      simp only [hname]
      rfl
    rw [ofNode?_eq hkind.insert, hnamed, Option.bind_none, ite_self]
  | some name =>
    have hother : name ≠ .text "type" := fun h => hm ⟨name, hname, .inl h⟩
    rw [ofNode?_with hkind hname hother]
    refine Option.bind_eq_none_iff.2 fun sides _ => Option.bind_eq_none_iff.2 fun t ht => ?_
    have hnamed : name = .other := by
      by_contra hnamed
      exact hreadable ⟨⟨name, hname, hnamed⟩, by rw [ht]; rfl⟩
    subst hnamed
    exact ofTree?_eq_none (Tree.placed?_refused rfl (.inr rfl))

end FilterSettings

lemma typedMembers?_eq : Node.typedMembers? members =
    members.mapM fun m => m.1.typedMemberName?.bind fun name => m.2.typed?.map fun t => (name, t) := by
  induction members with
  | nil => rfl
  | cons m members ih =>
    obtain ⟨k, v⟩ := m
    rw [Node.typedMembers?, List.mapM_cons, ih]
    cases k.typedMemberName? <;> cases v.typed? <;> rfl

lemma ScriptSettings.ofTree?_eq_none (h : t.members? optionNames true = none) : ofTree? t = none := by
  unfold ofTree?
  rw [h]
  rfl

/-- A script with a member that is not one of its options cannot be read. -/
lemma ScriptSettings.refused {m : Node × Node} (hm : ¬ OptionLevel.script.Recognises m.1) {t : Tree}
    (ht : (Node.mapping tag (before ++ m :: after)).typed? = some t) :
    Tree.optional? ScriptSettings.ofTree? (some t) = none := by
  obtain ⟨k, v⟩ := m
  rw [Node.typed?] at ht
  split_ifs at ht with htag
  simp only [typedMembers?_eq, Option.mapM_append_cons] at ht
  obtain ⟨typed, htyped, ht⟩ := Option.bind_eq_some_iff.1 ht
  simp only [Option.bind_eq_some_iff, Option.map_eq_some_iff, Option.some_inj] at htyped
  obtain ⟨xs, -, -, ⟨name, hname, u, -, rfl⟩, ys, -, rfl⟩ := htyped
  obtain rfl := Option.some.inj ht
  have hposition : Tree.position? optionNames name = none := by
    rw [← Option.not_isSome_iff_eq_none]
    exact fun h => hm ⟨name, hname, h⟩
  have hmembers : (Tree.mapping (xs ++ (name, u) :: ys)).members? optionNames true = none :=
    Tree.placed?_refused hposition (.inl rfl)
  change (ofTree? (.mapping (xs ++ (name, u) :: ys))).map some = none
  rw [ofTree?_eq_none hmembers, Option.map_none]

/-- A script under its name. -/
lemma FilterSettings.ofNode?_script_named {key s : Node} {name : MemberName}
    (hkey : key.typedMemberName? = some name)
    (hname : Tree.position? (optionNames "signature_validation") name = some 2)
    (hkind : HasKind "signature_validation" (before ++ after))
    (hs : ∀ t, s.typed? = some t → Tree.optional? ScriptSettings.ofTree? (some t) = none) :
    ofNode? (.mapping tag (before ++ (key, s) :: after)) = none := by
  have hother : name ≠ .text "type" := by
    rintro rfl
    cases hname
  rw [ofNode?_with hkind hkey hother]
  refine Option.bind_eq_none_iff.2 fun sides _ => Option.bind_eq_none_iff.2 fun t ht => ?_
  have hplaced : Tree.placed? (optionNames "signature_validation") false
      (sides.1 ++ (name, t) :: sides.2) =
        (Tree.placed? (optionNames "signature_validation") false
          (sides.1 ++ (name, t) :: sides.2)).map (·.set 2 (some t)) := Tree.placed?_member hname
  cases hmembers : Tree.placed? (optionNames "signature_validation") false
    (sides.1 ++ (name, t) :: sides.2) with
  | none => exact ofTree?_eq_none hmembers
  | some places =>
    rw [hmembers] at hplaced
    exact ofTree?_script (hmembers.trans hplaced) (hs t ht)

/-- A script by its position. -/
lemma FilterSettings.ofNode?_script_listed {first required names s : Node} {more : List Node}
    (hkind : first.text? = some "signature_validation")
    (hs : ∀ t, s.typed? = some t → Tree.optional? ScriptSettings.ofTree? (some t) = none) :
    ofNode? (.sequence tag (first :: required :: names :: s :: more)) = none := by
  unfold ofNode?
  cases htag : Tag.localName? tag with
  | some name =>
    simp only [htag]
    rfl
  | none =>
    simp only [htag, hkind]
    change (Node.typedItems? (required :: names :: s :: more)).bind
      (fun items => ofTree? "signature_validation" (.sequence true items)) = none
    refine Option.bind_eq_none_iff.2 fun items hitems => ?_
    simp only [Node.typedItems?, Option.bind_eq_bind, Option.bind_eq_some_iff, Option.pure_def,
      Option.some_inj] at hitems
    obtain ⟨a, -, -, ⟨b, -, -, ⟨t, ht, more', -, rfl⟩, rfl⟩, rfl⟩ := hitems
    -- the kind has three options, so the script must be the last item
    cases more' with
    | nil =>
      have hmembers : (Tree.sequence true [a, b, t]).members? (optionNames "signature_validation") false =
          some (List.set [some a, some b, none] 2 (some t)) := rfl
      exact ofTree?_script hmembers (hs t ht)
    | cons c more' => exact ofTree?_eq_none rfl

lemma ScriptPlace.ofNode?_eq_none (hplace : ScriptPlace place) {s : Node}
    (hs : ∀ t, s.typed? = some t → Tree.optional? ScriptSettings.ofTree? (some t) = none) :
    FilterSettings.ofNode? (place s) = none := by
  cases hplace with
  | named hkey hname hkind => exact FilterSettings.ofNode?_script_named hkey hname hkind hs
  | listed hkind => exact FilterSettings.ofNode?_script_listed hkind hs

end Filter

/-! ### The configuration -/

namespace Configuration

variable {tag : Option Tag} {key v : Node} {members before after : List (Node × Node)}

lemma ofNode?_mapping : ofNode? (.mapping tag members) =
    (Tree.placed? memberNames true (members.map fun m => (m.1.memberName, m.2))).bind ofPlaces? := rfl

lemma ofPlaces?_filters (places : List (Option Node)) :
    ofPlaces? (places.set 3 (some v)) =
      (ofPlaces? (places.set 3 none)).bind fun c =>
        (filters? v).map fun filters => { c with filters := filters } := by
  match places with
  | [] | [_] | [_, _] | [_, _, _] => rfl
  | _ :: _ :: _ :: _ :: _ :: _ => rfl
  | [abort, engine, providers, _] =>
    simp only [List.set, ofPlaces?, filters?, optionOr?, Option.bind_eq_bind, Option.pure_def,
      Option.bind_assoc, Option.bind_some, Option.map_eq_bind]
    rfl

/-- The filters are read on their own. -/
lemma ofNode?_filters (hkey : key.memberName = .text "filters") (u v : Node) :
    ofNode? (.mapping tag (before ++ (key, u) :: after)) =
      ((Tree.placed? memberNames true
        ((before ++ (key, v) :: after).map fun m => (m.1.memberName, m.2))).bind fun places =>
          ofPlaces? (places.set 3 none)).bind fun c =>
            (filters? u).map fun filters => { c with filters := filters } := by
  have hposition : Tree.position? memberNames key.memberName = some 3 := by
    rw [hkey]
    rfl
  have hplaced : Tree.placed? memberNames true
      ((before ++ (key, u) :: after).map fun m => (m.1.memberName, m.2)) =
        (Tree.placed? memberNames true
          ((before ++ (key, v) :: after).map fun m => (m.1.memberName, m.2))).map
            (·.set 3 (some u)) := by
    rw [List.map_append, List.map_append, List.map_cons, List.map_cons]
    exact Tree.placed?_member hposition
  rw [ofNode?_mapping, hplaced, Option.bind_map, Option.bind_assoc]
  exact Option.bind_congr fun places _ => ofPlaces?_filters places

end Configuration

section Place

variable {place : Node → Node} {f f' : Node}

lemma FilterPlace.ofNode?_congr (hplace : FilterPlace place)
    (h : FilterSettings.ofNode? f = FilterSettings.ofNode? f') :
    Configuration.ofNode? (place f) = Configuration.ofNode? (place f') := by
  cases hplace with
  | mk hkey =>
    rename_i tag inner key before after earlier later
    have hfilters : Configuration.filters? (.sequence inner (earlier ++ f :: later)) =
        Configuration.filters? (.sequence inner (earlier ++ f' :: later)) := Option.mapM_append_cons_congr h
    rw [Configuration.ofNode?_filters hkey _ key, Configuration.ofNode?_filters hkey _ key, hfilters]

lemma FilterPlace.ofNode?_eq_none (hplace : FilterPlace place) (h : FilterSettings.ofNode? f = none) :
    Configuration.ofNode? (place f) = none := by
  cases hplace with
  | mk hkey =>
    rename_i tag inner key before after earlier later
    have hfilters : Configuration.filters? (.sequence inner (earlier ++ f :: later)) = none :=
      Option.mapM_append_cons_of_eq_none h
    rw [Configuration.ofNode?_filters hkey _ key, hfilters]
    exact Option.bind_eq_none_iff.2 fun _ _ => rfl

end Place

/-! ### All levels -/

section Options

variable {level : OptionLevel} {place : Node → Node} {tag : Option Tag} {m : Node × Node}
  {before after : List (Node × Node)}

/-- A filter passes over a member that names none of its options. -/
lemma OptionPlace.ofNode?_passedOver (hplace : OptionPlace level (before ++ m :: after) place)
    (hm : ¬ level.Recognises m.1) (hignores : level.Ignores m) :
    Configuration.ofNode? (place (.mapping tag (before ++ m :: after))) =
      Configuration.ofNode? (place (.mapping tag (before ++ after))) := by
  cases hplace with
  | top | script _ _ => cases hignores
  | filter hplace hkind =>
    have hkind := hkind.erase fun h => hm ⟨_, h, .inl rfl⟩
    exact hplace.ofNode?_congr (FilterSettings.ofNode?_passedOver hkind hm hignores)

/-- Everything else that names no option is an error. -/
lemma OptionPlace.ofNode?_eq_none (hplace : OptionPlace level (before ++ m :: after) place)
    (hm : ¬ level.Recognises m.1) (hignores : ¬ level.Ignores m) :
    Configuration.ofNode? (place (.mapping tag (before ++ m :: after))) = none := by
  cases hplace with
  | top =>
    have hposition : Tree.position? Configuration.memberNames m.1.memberName = none := by
      rwa [← Option.not_isSome_iff_eq_none]
    rw [Configuration.ofNode?_mapping, List.map_append, List.map_cons,
      Tree.placed?_refused hposition (.inl rfl), Option.bind_none]
  | filter hplace hkind =>
    have hkind := hkind.erase fun h => hm ⟨_, h, .inl rfl⟩
    exact hplace.ofNode?_eq_none (FilterSettings.ofNode?_refused hkind hm hignores)
  | script hplace hfilter =>
    exact hplace.ofNode?_eq_none (hfilter.ofNode?_eq_none fun t ht => ScriptSettings.refused hm ht)

end Options

namespace Configuration

variable {document : String} {root : Node}

lemma ofText?_eq (hroot : Node.parse? document = some root) : ofText? document = ofNode? root := by
  unfold ofText?
  rw [hroot]
  rfl

/-- **Which keys an accepted document has, and what another key does.**  In an accepted document every key
at the top and in a script names an option; a key of a filter names one of the options of its kind, or it is
passed over.  A key that names no option makes the document malformed at the top and in a script, and in a
filter if the key or its value cannot be read.  Otherwise the filter passes over it: the document is the
same without. -/
theorem options_recognised {level : OptionLevel} {place : Node → Node} {tag : Option Tag}
    {members : List (Node × Node)} (hplace : OptionPlace level members place)
    (hdocument : Node.parse? document = some (place (.mapping tag members))) :
    (∀ c, ofDocument document = .ok c →
      ∀ m ∈ members, level.Recognises m.1 ∨ level.Ignores m) ∧
    ∀ before m after, members = before ++ m :: after → ¬ level.Recognises m.1 →
      (¬ level.Ignores m → ofDocument document = .error (.config .malformed)) ∧
      (level.Ignores m → ∀ document₀,
        Node.parse? document₀ = some (place (.mapping tag (before ++ after))) →
          ofDocument document = ofDocument document₀) := by
  -- an accepted document has no such member, so both parts rest on this
  have hrefused (before : List (Node × Node)) (m : Node × Node) (after : List (Node × Node))
      (hmembers : members = before ++ m :: after) (hm : ¬ level.Recognises m.1)
      (hignores : ¬ level.Ignores m) : ofDocument document = .error (.config .malformed) := by
    subst hmembers
    unfold ofDocument
    rw [ofText?_eq hdocument, hplace.ofNode?_eq_none hm hignores]
    rfl
  refine ⟨fun c hc m hmem => ?_, fun before m after hmembers hm => ⟨?_, ?_⟩⟩
  · by_contra hneither
    obtain ⟨hm, hignores⟩ := not_or.1 hneither
    obtain ⟨before, after, hmembers⟩ := List.append_of_mem hmem
    rw [hrefused before m after hmembers hm hignores] at hc
    cases hc
  · exact hrefused before m after hmembers hm
  · intro hignores document₀ hdocument₀
    subst hmembers
    unfold ofDocument
    rw [ofText?_eq hdocument, ofText?_eq hdocument₀, hplace.ofNode?_passedOver hm hignores]

end Configuration

/-! ### A requirement that is not seen, and an engine that is not known -/

namespace OptionSample

/-- A word without quotes. -/
def scalar (s : String) : Node := .scalar none .plain s

/-- A document whose filter is to require signatures. -/
def strict : String := "filters: [\x7btype: signature_validation, require_signatures: true\x7d]"

/-- **A misspelled option of a filter does not show**, and signatures are not required. -/
theorem misspelled_requirement_ignored :
    ¬ (OptionLevel.filter "signature_validation").Recognises (scalar "require_signatures") ∧
    Configuration.ofDocument strict = .ok { filters := [.signatureValidation false [] none] } := by
  refine ⟨?_, ?_⟩
  · rintro ⟨name, hname, hrecognised⟩
    obtain rfl : .text "require_signatures" = name := Option.some.inj hname
    exact absurd hrecognised (by decide)
  · decide +kernel

/-- A document whose script is to have an engine. -/
def scripted : String :=
  "filters: [\x7btype: signature_validation, trusted_names_script: \x7binline: a, engin: b\x7d\x7d]"

/-- The tokens of the document after the first one. -/
def scriptedTokens : List Token :=
  [.key, .scalar .plain "filters", .value, .openBracket, .openBrace,
    .key, .scalar .plain "type", .value, .scalar .plain "signature_validation", .comma,
    .key, .scalar .plain "trusted_names_script", .value, .openBrace,
    .key, .scalar .plain "inline", .value, .scalar .plain "a", .comma,
    .key, .scalar .plain "engin", .value, .scalar .plain "b",
    .closeBrace, .closeBrace, .closeBracket, .blockEnd]

/-- The document as it is written. -/
def scriptedWritten : SerialDocument where
  root := .mapping none [(.scalar none .plain "filters", .sequence none [.mapping none
    [(.scalar none .plain "type", .scalar none .plain "signature_validation"),
      (.scalar none .plain "trusted_names_script", .mapping none
        [(.scalar none .plain "inline", .scalar none .plain "a"),
          (.scalar none .plain "engin", .scalar none .plain "b")])]])]
  bearers := []

/-- What a mapping without tags writes down does not depend on the handles of tags. -/
lemma parse?_of_ofContent? {document : String} {tokens : List Token} {d : SerialDocument}
    (htokens : tokens? document = some (.blockMapping :: tokens))
    (h : ∀ handles, SerialDocument.ofContent? handles (.blockMapping :: tokens) = some (d, [])) :
    SerialDocument.parse? document = some d := by
  unfold SerialDocument.parse? SerialDocument.ofTokens?
  rw [htokens]
  change (SerialDocument.ofContent? Tag.standardHandles (.blockMapping :: tokens)).bind _ = _
  rw [h]
  rfl

lemma parse?_scripted : SerialDocument.parse? scripted = some scriptedWritten := by
  have htokens : tokens? scripted = some (.blockMapping :: scriptedTokens) := by decide +kernel
  refine parse?_of_ofContent? htokens fun handles => ?_
  unfold scriptedTokens scriptedWritten
  cbv

/-- The document around its filter. -/
def root (filter : Node) : Node :=
  .mapping none ([] ++ (scalar "filters", .sequence none ([] ++ filter :: [])) :: [])

/-- The filter around its script. -/
def filter (script : Node) : Node :=
  .mapping none ([(scalar "type", scalar "signature_validation")] ++
    (scalar "trusted_names_script", script) :: [])

/-- A misspelled option of a script is an error. -/
theorem misspelled_engine_refused :
    Configuration.ofDocument scripted = .error (.config .malformed) := by
  have hfilter : ScriptPlace filter := .named rfl rfl ⟨_, List.mem_singleton_self _, rfl, rfl⟩
  have hplace : OptionPlace .script [(scalar "inline", scalar "a"), (scalar "engin", scalar "b")]
      fun script => root (filter script) := .script (.mk rfl) hfilter
  have hdocument : Node.parse? scripted = some (root (filter (.mapping none
      [(scalar "inline", scalar "a"), (scalar "engin", scalar "b")]))) := by
    unfold Node.parse? Node.read?
    rw [parse?_scripted]
    delta SerialDocument.represent?
    rfl
  have hm : ¬ OptionLevel.script.Recognises (scalar "engin") := by
    rintro ⟨name, hname, hposition⟩
    obtain rfl : .text "engin" = name := Option.some.inj hname
    exact absurd hposition (by decide)
  exact ((Configuration.options_recognised hplace hdocument).2
    [(scalar "inline", scalar "a")] (scalar "engin", scalar "b") [] rfl hm).1 id

end OptionSample

end MetadataTrust
