import MetadataTrust.Metadata.Form
import MetadataTrust.Proofs.Instant
import MetadataTrust.Proofs.Signature.Form

/-!
# Entities and roles are read back from their forms

What is read is the document of an entity or role: all of it but the namespaces and the cached text,
which are not written.
-/

namespace MetadataTrust

open Json MetadataTrust.Tree

/-- What is written of a role. -/
def Role.document (r : Role) : Role := { r with namespaces := {}, serialization := none }

/-- What is written of an entity. -/
def Entity.document (e : Entity) : Entity :=
  { e with roles := e.roles.map Role.document, namespaces := {}, serialization := none }

lemma Role.form_document (r : Role) : r.document.form = r.form := rfl

lemma Entity.form_document (e : Entity) : e.document.form = e.form := by
  unfold form members document
  rw [List.map_map]
  rfl

/-! ### Names of members -/

namespace QName

lemma names_sublist (n : QName) :
    (([("namespace_uri", Json.string n.namespaceUri), ("local_part", Json.string n.localPart)] ++
      optionalMember "prefix" Json.string n.nsPrefix).map Prod.fst).Sublist
      ["namespace_uri", "local_part", "prefix"] := by
  rw [List.map_append]
  exact (List.Sublist.refl _).append (optionalMember_names_sublist n.nsPrefix)

end QName

namespace Role

lemma nodup_memberNames : memberNames.Nodup := by decide

lemma members_names_sublist (r : Role) : (r.members.map Prod.fst).Sublist memberNames := by
  unfold members
  simp only [List.map_append]
  exact ((((List.Sublist.refl _).append (optionalMember_names_sublist r.id)).append (.refl _)).append
    (optionalMember_names_sublist r.validUntil) |>.append (.refl _)).append
    (optionalMember_names_sublist r.signature)

end Role

namespace Entity

/-- The names of the members of an entity. -/
def memberNames : List String := ["entity_id", "id", "valid_until", "roles", "signature"]

lemma nodup_memberNames : memberNames.Nodup := by decide

lemma members_names_sublist (e : Entity) : (e.members.map Prod.fst).Sublist memberNames := by
  unfold members
  simp only [List.map_append]
  exact ((((List.Sublist.refl _).append (optionalMember_names_sublist e.id)).append
    (optionalMember_names_sublist e.validUntil)).append (.refl _)).append
    (optionalMember_names_sublist e.signature)

end Entity

/-! ### Forms are plain -/

lemma QName.plain_form (n : QName) : n.form.Plain := by
  have hnames : ["namespace_uri", "local_part", "prefix"].Nodup := by decide
  refine plain_record hnames n.names_sublist ?_
  rw [List.forall_mem_append]
  refine ⟨?_, plain_optionalMember Plain.string n.nsPrefix⟩
  simp only [List.forall_mem_cons, Plain.string, true_and]
  exact List.forall_mem_nil _

lemma Instant.plain_form (t : Instant) : t.form.Plain := .string _

lemma KeyDescriptor.plain_form (k : KeyDescriptor) : k.form.Plain := by
  have hnames : ["usage", "key_info"].Nodup := by decide
  have husage : k.usage.form.Plain := .string _
  refine plain_record hnames (.refl _) ?_
  simp only [List.forall_mem_cons, husage, k.keyInfo.plain_form, true_and]
  exact List.forall_mem_nil _

lemma Role.plain_form (r : Role) : r.form.Plain := by
  refine plain_record nodup_memberNames r.members_names_sublist ?_
  simp only [members, List.forall_mem_append, List.forall_mem_singleton]
  refine ⟨⟨⟨⟨⟨?_, ?_⟩, ?_⟩, ?_⟩, ?_⟩, ?_⟩
  · exact r.elementType.plain_form
  · exact plain_optionalMember Plain.string r.id
  · exact plain_textsForm r.supportedProtocols
  · exact plain_optionalMember Instant.plain_form r.validUntil
  · exact plain_array KeyDescriptor.plain_form r.keyDescriptors
  · exact plain_optionalMember Signature.plain_form r.signature

lemma Entity.plain_form (e : Entity) : e.form.Plain := by
  refine plain_record nodup_memberNames e.members_names_sublist ?_
  simp only [members, List.forall_mem_append, List.forall_mem_singleton]
  refine ⟨⟨⟨⟨?_, ?_⟩, ?_⟩, ?_⟩, ?_⟩
  · exact .string e.entityId
  · exact plain_optionalMember Plain.string e.id
  · exact plain_optionalMember Instant.plain_form e.validUntil
  · exact plain_array Role.plain_form e.roles
  · exact plain_optionalMember Signature.plain_form e.signature

lemma Signable.plain_form (o : Signable) : o.form.Plain := by
  cases o with
  | entity e => exact e.plain_form
  | role r => exact r.plain_form

/-! ### Forms are read back -/

variable {f : Json → Json} (hf : Reordering f)
include hf

lemma QName.ofTree?_form (n : QName) : ofTree? (ofJson (f n.form)) = some n := by
  have hprefix := optional?_form (text?_string hf) (presence_string hf) n.nsPrefix
  unfold ofTree? form
  rw [members?_object hf]
  · simp only [List.map_cons, List.map_nil, List.lookup_append, lookup_optionalMember,
      List.lookup_cons, List.lookup_nil, beq_self_eq_true, reduceIte, String.reduceEq,
      String.reduceBEq, Option.or_none, Option.none_or]
    simp only [Option.bind_eq_bind, Option.bind_some, Option.map_some, hprefix, needed?,
      text?_string hf]
    rfl
  · decide
  · exact n.names_sublist

lemma Instant.ofTree?_form (t : Instant) : ofTree? (ofJson (f t.form)) = some t := by
  unfold ofTree? form
  rw [text?_string hf, Option.bind_eq_bind, Option.bind_some, t.parse?_text]

lemma KeyDescriptor.ofTree?_form (k : KeyDescriptor) : ofTree? (ofJson (f k.form)) = some k := by
  unfold ofTree? form
  rw [members?_object hf]
  · simp [orDefault?, needed?, List.lookup_cons, KeyUsage.ofTree?_form hf, KeyInfo.ofTree?_form hf]
  · decide
  · exact .refl _

theorem Role.ofTree?_form (r : Role) : ofTree? (ofJson (f r.form)) = some r.document := by
  have hid := optional?_form (text?_string hf) (presence_string hf) r.id
  have huntil := optional?_form (Instant.ofTree?_form hf) (fun t => presence_string hf _) r.validUntil
  have hkeys := listOf?_array hf (KeyDescriptor.ofTree?_form hf) r.keyDescriptors
  have hsignature := optional?_form (Signature.ofTree?_form hf) (fun s => presence_object hf _)
    r.signature
  rw [List.map_id'] at hkeys
  unfold ofTree? form
  rw [members?_object hf nodup_memberNames r.members_names_sublist]
  simp only [memberNames, members, List.map_cons, List.map_nil, List.lookup_append,
    lookup_optionalMember, List.lookup_cons, List.lookup_nil, beq_self_eq_true, reduceIte,
    String.reduceEq, String.reduceBEq, Option.or_none, Option.none_or]
  simp only [Option.bind_eq_bind, Option.bind_some, Option.map_some, hid, huntil, hkeys, hsignature,
    needed?, orDefault?, QName.ofTree?_form hf, listOf?_textsForm hf]
  rfl

theorem Entity.ofTree?_form (e : Entity) : ofTree? (ofJson (f e.form)) = some e.document := by
  have hid := optional?_form (text?_string hf) (presence_string hf) e.id
  have huntil := optional?_form (Instant.ofTree?_form hf) (fun t => presence_string hf _) e.validUntil
  have hroles := listOf?_array hf (Role.ofTree?_form hf) e.roles
  have hsignature := optional?_form (Signature.ofTree?_form hf) (fun s => presence_object hf _)
    e.signature
  have hmembers := members?_object hf nodup_memberNames e.members_names_sublist
  unfold memberNames at hmembers
  unfold ofTree? form
  rw [hmembers]
  simp only [members, List.map_cons, List.map_nil, List.lookup_append,
    lookup_optionalMember, List.lookup_cons, List.lookup_nil, beq_self_eq_true, reduceIte,
    String.reduceEq, String.reduceBEq, Option.or_none, Option.none_or]
  simp only [Option.bind_eq_bind, Option.bind_some, Option.map_some, hid, huntil, hroles, hsignature,
    needed?, orDefault?, text?_string hf]
  rfl

end MetadataTrust
