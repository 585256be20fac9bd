import MetadataTrust.Proofs.KeyInfo.Form
import MetadataTrust.Signature.Form

/-!
# Signatures are read back from their forms

The form of a signature keeps all of it: both algorithms, the octets that were signed, the signature
value, the hint at the key, and every reference with its digest.
-/

namespace MetadataTrust

open Json MetadataTrust.Tree

/-! ### Forms are plain -/

lemma plain_textsForm (texts : List String) : (textsForm texts).Plain :=
  plain_array Plain.string texts

lemma ContentReference.plain_form (r : ContentReference) : r.form.Plain := by
  have hnames : memberNames.Nodup := by decide
  refine plain_record hnames (.refl _) ?_
  simp only [List.forall_mem_cons, Plain.string, plain_textsForm, plain_octetsForm, true_and]
  exact List.forall_mem_nil _

namespace Signature

/-- The members of the form of a signature, in order. -/
def members (s : Signature) : List (String × Json) :=
  [("signature_algorithm", .string s.algorithm),
    ("canonicalization_algorithm", .string s.canonicalization),
    ("signed_info", octetsForm s.signedInfo),
    ("signature_value", octetsForm s.value)] ++
  optionalMember "key_info" KeyInfo.form s.keyInfo ++
  [("references", .array (s.references.map ContentReference.form))]

lemma form_eq (s : Signature) : s.form = .object s.members := rfl

lemma nodup_memberNames : memberNames.Nodup := by decide

lemma members_names_sublist (s : Signature) : (s.members.map Prod.fst).Sublist memberNames := by
  unfold members
  rw [List.map_append, List.map_append]
  exact ((List.Sublist.refl _).append (optionalMember_names_sublist s.keyInfo)).append (.refl _)

lemma plain_form (s : Signature) : s.form.Plain := by
  refine plain_record nodup_memberNames s.members_names_sublist ?_
  rw [List.forall_mem_append, List.forall_mem_append, List.forall_mem_singleton]
  refine ⟨⟨?_, plain_optionalMember KeyInfo.plain_form s.keyInfo⟩,
    plain_array ContentReference.plain_form s.references⟩
  simp only [List.forall_mem_cons, Plain.string, plain_octetsForm, true_and]
  exact List.forall_mem_nil _

end Signature

/-! ### Forms are read back -/

variable {f : Json → Json} (hf : Reordering f)
include hf

lemma listOf?_textsForm (texts : List String) :
    listOf? text? (ofJson (f (textsForm texts))) = some texts := by
  have h := listOf?_array hf (text?_string hf) texts
  rwa [List.map_id'] at h

theorem ContentReference.ofTree?_form (r : ContentReference) :
    ofTree? (ofJson (f r.form)) = some r := by
  unfold ofTree? form
  rw [members?_object hf]
  · simp [memberNames, List.lookup_cons, orDefault?, text?_string hf, listOf?_textsForm hf,
      octetsOfTree?_form hf]
  · decide
  · exact .refl _

theorem Signature.ofTree?_form (s : Signature) : ofTree? (ofJson (f s.form)) = some s := by
  have hkeyInfo := optional?_form (KeyInfo.ofTree?_form hf) (fun k => presence_object hf _) s.keyInfo
  have hreferences := listOf?_array hf (ContentReference.ofTree?_form hf) s.references
  rw [List.map_id'] at hreferences
  unfold ofTree?
  rw [form_eq, members?_object hf nodup_memberNames s.members_names_sublist]
  simp only [memberNames, members, List.map_cons, List.map_nil, List.lookup_append,
    lookup_optionalMember, List.lookup_cons, List.lookup_nil, beq_self_eq_true, reduceIte,
    String.reduceEq, String.reduceBEq, Option.or_none, Option.none_or]
  simp only [Option.bind_eq_bind, Option.bind_some, Option.map_some, hkeyInfo, hreferences,
    needed?, orDefault?, text?_string hf, octetsOfTree?_form hf]
  rfl

end MetadataTrust
