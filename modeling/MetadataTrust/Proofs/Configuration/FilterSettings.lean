import MetadataTrust.Configuration.Document
import MetadataTrust.Proofs.Outcome

/-!
# The members of a filter

The kind of a filter is one of its members, and the others are read according to it.  What the others
give depends on the options of the kind alone: `FilterSettings.ofNode?_with` and `ofNode?_without` say
what one member among the others has to do with it.
-/

namespace MetadataTrust.FilterSettings

open Yaml

/-- Whether the members of a filter give its kind. -/
def HasKind (kind : String) (members : List (Node × Node)) : Prop :=
  ∃ m ∈ members, m.1.typedMemberName? = some (.text "type") ∧ m.2.text? = some kind

variable {kind : String} {t t' : Tree} {tag : Option Tag} {members before after : List (Node × Node)}

/-! ### Options of a kind -/

/-- The settings of a kind depend on its own options alone. -/
lemma ofTree?_congr (h : t.members? (optionNames kind) false = t'.members? (optionNames kind) false) :
    ofTree? kind t = ofTree? kind t' := by
  unfold ofTree?
  rw [h]

lemma ofTree?_eq_none (h : t.members? (optionNames kind) false = none) : ofTree? kind t = none := by
  unfold ofTree?
  rw [h]
  rfl

/-- A script that cannot be read makes the filter unreadable. -/
lemma ofTree?_script {places : List (Option Tree)} {script : Tree}
    (h : t.members? (optionNames "signature_validation") false = some (places.set 2 (some script)))
    (hscript : Tree.optional? ScriptSettings.ofTree? (some script) = none) :
    ofTree? "signature_validation" t = none := by
  unfold ofTree?
  rw [h]
  match places with
  | [] | [_] | [_, _] => rfl
  | _ :: _ :: _ :: _ :: _ => rfl
  | [required, names, _] =>
    change (Tree.orDefault? false Tree.bool? required).bind _ = none
    refine Option.bind_eq_none_iff.2 fun _ _ => Option.bind_eq_none_iff.2 fun _ _ => ?_
    change (Tree.optional? ScriptSettings.ofTree? (some script)).bind _ = none
    rw [hscript, Option.bind_none]

/-! ### The kind among the members -/

/-- Whether a member is the kind. -/
def isKind (m : MemberName × Node) : Bool := m.1 = .text "type"

lemma splitKind?_cons_kind {v : Node} {more : List (MemberName × Node)} :
    splitKind? ((.text "type", v) :: more) = if more.any isKind then none else some (v, more) := by
  rw [splitKind?]
  rfl

lemma splitKind?_cons_other {m : MemberName × Node} {more : List (MemberName × Node)}
    (hm : isKind m = false) :
    splitKind? (m :: more) = (splitKind? more).map fun split => (split.1, m :: split.2) := by
  rw [splitKind?]
  · cases splitKind? more <;> rfl
  · rintro v rfl
    cases hm

/-- The kind is split from the others if it is there exactly once. -/
lemma splitKind?_eq {named : List (MemberName × Node)} :
    splitKind? named =
      match named.filter isKind with
      | [m] => some (m.2, named.filter (!isKind ·))
      | _ => none := by
  induction named with
  | nil => rfl
  | cons m more ih =>
    cases hm : isKind m with
    | true =>
      obtain ⟨name, v⟩ := m
      obtain rfl : name = .text "type" := by simpa [isKind] using hm
      rw [splitKind?_cons_kind, List.filter_cons_of_pos hm]
      cases hmore : more.filter isKind with
      | nil =>
        have hnone : ∀ m ∈ more, ¬ isKind m = true := List.filter_eq_nil_iff.1 hmore
        have hrest : ((.text "type", v) :: more).filter (!isKind ·) = more := by
          rw [List.filter_cons_of_neg (by simp [isKind]), List.filter_eq_self]
          simpa using hnone
        rw [if_neg (by simpa using hnone), hrest]
      | cons m' more' =>
        have hmem : m' ∈ more.filter isKind := hmore ▸ List.mem_cons_self
        rw [if_pos (List.any_eq_true.2 ⟨m', List.mem_filter.1 hmem⟩)]
    | false =>
      have hrest : (m :: more).filter (!isKind ·) = m :: more.filter (!isKind ·) :=
        List.filter_cons_of_pos (by simp [hm])
      rw [splitKind?_cons_other hm, ih, List.filter_cons_of_neg (by simp [hm]), hrest]
      split <;> rfl

lemma HasKind.insert {m : Node × Node} (h : HasKind kind (before ++ after)) :
    HasKind kind (before ++ m :: after) := by
  obtain ⟨m', hmem, hm'⟩ := h
  refine ⟨m', ?_, hm'⟩
  simp only [List.mem_append, List.mem_cons] at hmem ⊢
  exact hmem.imp_right .inr

lemma HasKind.erase {m : Node × Node} (h : HasKind kind (before ++ m :: after))
    (hm : m.1.typedMemberName? ≠ some (.text "type")) : HasKind kind (before ++ after) := by
  obtain ⟨m', hmem, hm'⟩ := h
  refine ⟨m', ?_, hm'⟩
  simp only [List.mem_append, List.mem_cons] at hmem ⊢
  obtain hmem | rfl | hmem := hmem
  · exact .inl hmem
  · exact absurd hm'.1 hm
  · exact .inr hmem

lemma ofNode?_eq (hkind : HasKind kind members) :
    ofNode? (.mapping tag members) =
      if (Tag.localName? tag).isSome then none
      else (named? members).bind fun named =>
        if (named.filter isKind).length ≠ 1 then none
        else (valued? (named.filter (!isKind ·))).bind fun typed => ofTree? kind (.mapping typed) := by
  have hread : ofNode? (.mapping tag members) =
      if (Tag.localName? tag).isSome then none
      else (named? members).bind fun named => (splitKind? named).bind fun split =>
        (valued? split.2).bind fun typed =>
          split.1.text?.bind fun kind => ofTree? kind (.mapping typed) := by
    unfold ofNode?
    cases htag : Tag.localName? tag <;> simp only [htag] <;> rfl
  rw [hread]
  refine if_congr Iff.rfl rfl (Option.bind_congr fun named hnamed => ?_)
  obtain ⟨⟨k, v⟩, hmem, hk, hv⟩ := hkind
  have hkindMem : (.text "type", v) ∈ named.filter isKind := by
    refine List.mem_filter.2 ⟨Option.mem_of_mapM hnamed hmem ?_, rfl⟩
    simp only [hk]
    rfl
  -- if the kind is there only once, it is the one that is given
  rw [splitKind?_eq]
  match hfilter : named.filter isKind with
  | [] => simp [hfilter] at hkindMem
  | [m] =>
    obtain rfl : (.text "type", v) = m := by simpa [hfilter] using hkindMem
    simp [hv]
  | _ :: _ :: _ => simp

/-- What is read of the members of a filter on either side of another one. -/
def beside? (tag : Option Tag) (before after : List (Node × Node)) :
    Option (List (MemberName × Tree) × List (MemberName × Tree)) :=
  if (Tag.localName? tag).isSome then none
  else (named? before).bind fun as => (named? after).bind fun bs =>
    if ((as ++ bs).filter isKind).length ≠ 1 then none
    else (valued? (as.filter (!isKind ·))).bind fun xs =>
      (valued? (bs.filter (!isKind ·))).bind fun ys => some (xs, ys)

lemma ofNode?_without (hkind : HasKind kind (before ++ after)) :
    ofNode? (.mapping tag (before ++ after)) =
      (beside? tag before after).bind fun sides => ofTree? kind (.mapping (sides.1 ++ sides.2)) := by
  have hnamed : named? (before ++ after) =
      (named? before).bind fun as => (named? after).bind fun bs => some (as ++ bs) := List.mapM_append
  have hvalued (as bs : List (MemberName × Node)) : valued? (as ++ bs) =
      (valued? as).bind fun xs => (valued? bs).bind fun ys => some (xs ++ ys) := List.mapM_append
  unfold beside?
  rw [ofNode?_eq hkind, hnamed]
  split_ifs with htag
  · rfl
  · simp only [Option.bind_assoc, Option.bind_some]
    refine Option.bind_congr fun as _ => Option.bind_congr fun bs _ => ?_
    split_ifs
    · rfl
    · rw [List.filter_append, hvalued]
      simp only [Option.bind_assoc, Option.bind_some]

lemma ofNode?_with (hkind : HasKind kind (before ++ after)) {k v : Node} {name : MemberName}
    (hname : k.typedMemberName? = some name) (hother : name ≠ .text "type") :
    ofNode? (.mapping tag (before ++ (k, v) :: after)) =
      (beside? tag before after).bind fun sides => v.typed?.bind fun t =>
        ofTree? kind (.mapping (sides.1 ++ (name, t) :: sides.2)) := by
  have hnamed : named? (before ++ (k, v) :: after) = (named? before).bind fun as =>
      (named? after).bind fun bs => some (as ++ (name, v) :: bs) := by
    unfold named?
    rw [Option.mapM_append_cons]
    simp only [hname]
    rfl
  have hvalued (as bs : List (MemberName × Node)) : valued? (as ++ (name, v) :: bs) =
      (valued? as).bind fun xs => (valued? bs).bind fun ys =>
        v.typed?.bind fun t => some (xs ++ (name, t) :: ys) := by
    refine Option.mapM_append_cons.trans (Option.bind_congr fun xs _ => ?_)
    change (v.typed?.bind fun t => some (name, t)).bind
      (fun y => (valued? bs).bind fun ys => some (xs ++ y :: ys)) = _
    cases v.typed? <;> cases valued? bs <;> rfl
  have hisKind : isKind (name, v) = false := by simpa [isKind] using hother
  unfold beside?
  rw [ofNode?_eq hkind.insert, hnamed]
  split_ifs with htag
  · rfl
  · simp only [Option.bind_assoc, Option.bind_some]
    refine Option.bind_congr fun as _ => Option.bind_congr fun bs _ => ?_
    have hkinds : (as ++ (name, v) :: bs).filter isKind = (as ++ bs).filter isKind := by
      simp [hisKind]
    have hothers : (as ++ (name, v) :: bs).filter (!isKind ·) =
        as.filter (!isKind ·) ++ (name, v) :: bs.filter (!isKind ·) := by
      simp [hisKind]
    rw [hkinds, hothers, hvalued]
    split_ifs
    · rfl
    · simp only [Option.bind_assoc, Option.bind_some]

end MetadataTrust.FilterSettings
