import MetadataTrust.KeyInfo.Form
import MetadataTrust.Proofs.Base64
import MetadataTrust.Proofs.Tree

/-!
# `KeyInfo` is read back from its form

Every hint at a key is read as it was written, with all its octets, in whatever order the members of its
objects stand.
-/

namespace MetadataTrust

open Json MetadataTrust.Tree

section Members

variable {α : Type} {f : Json → Json} {name k : String} {form : α → Json} {read : Tree → Option α}

lemma lookup_optionalMember (o : Option α) :
    (optionalMember name form o).lookup k = if k = name then o.map form else none := by
  cases o with
  | none => simp [optionalMember]
  | some a =>
    by_cases h : k = name
    · simp [optionalMember, h]
    · simp [optionalMember, List.lookup_cons, beq_false_of_ne h, h]

lemma optionalMember_names_sublist (o : Option α) :
    ((optionalMember name form o).map Prod.fst).Sublist [name] := by
  cases o with
  | none => exact List.nil_sublist _
  | some a => exact .refl _

lemma plain_optionalMember (h : ∀ a, (form a).Plain) (o : Option α) :
    ∀ m ∈ optionalMember name form o, m.2.Plain := by
  cases o with
  | none => exact fun m hm => absurd hm List.not_mem_nil
  | some a =>
    intro m hm
    rw [List.mem_singleton.1 hm]
    exact h a

lemma optional?_form (h : ∀ a, read (ofJson (f (form a))) = some a)
    (hpresent : ∀ a, (ofJson (f (form a))).presence = .present) (o : Option α) :
    optional? read ((o.map form).map fun x => ofJson (f x)) = some o := by
  cases o with
  | none => rfl
  | some a => simp [optional?, h, hpresent]

lemma plain_array (h : ∀ a, (form a).Plain) (as : List α) : (Json.array (as.map form)).Plain := by
  refine .array fun x hx => ?_
  obtain ⟨a, -, rfl⟩ := List.mem_map.1 hx
  exact h a

end Members

/-! ### Forms are plain -/

lemma plain_record {names : List String} {members : List (String × Json)} (hnodup : names.Nodup)
    (hsub : (members.map Prod.fst).Sublist names) (h : ∀ m ∈ members, m.2.Plain) :
    (Json.object members).Plain :=
  .object (hsub.nodup hnodup) h

lemma plain_variant {x : Json} (name : String) (h : x.Plain) : (Json.object [(name, x)]).Plain :=
  .object (List.nodup_singleton name) (List.forall_mem_singleton.2 h)

lemma plain_octetsForm (bs : Octets) : (octetsForm bs).Plain := .string _

lemma X509Certificate.plain_form (c : X509Certificate) : c.form.Plain :=
  plain_variant "der" (plain_octetsForm c.der)

lemma KeyValue.plain_form (v : KeyValue) : v.form.Plain := by
  cases v with
  | rsa modulus exponent =>
    have hnames : ["modulus", "exponent"].Nodup := by decide
    refine plain_variant "rsa" (plain_record hnames (.refl _) ?_)
    simp only [List.forall_mem_cons, plain_octetsForm, true_and]
    exact List.forall_mem_nil _
  | dsa p q g y =>
    have hnames : ["p", "q", "g", "y"].Nodup := by decide
    refine plain_variant "dsa" (plain_record hnames (.refl _) ?_)
    simp only [List.forall_mem_cons, plain_octetsForm, true_and]
    exact List.forall_mem_nil _

lemma KeyInfoChild.plain_form (c : KeyInfoChild) : c.form.Plain := by
  cases c with
  | keyName name => exact plain_variant "key_name" (.string name)
  | keyValue v => exact plain_variant "key_value" v.plain_form
  | encodedKey der => exact plain_variant "der_encoded_key_value" (plain_octetsForm der)
  | x509Data cs =>
    have hcertificates := plain_array X509Certificate.plain_form cs
    exact plain_variant "x509_data" (plain_variant "certificates" hcertificates)
  | unknown element => exact plain_variant "unknown" (.string element)

lemma KeyInfo.names_sublist (k : KeyInfo) :
    ((optionalMember "id" Json.string k.id ++
      [("children", Json.array (k.children.map KeyInfoChild.form))]).map Prod.fst).Sublist
      ["id", "children"] := by
  rw [List.map_append]
  exact (optionalMember_names_sublist k.id).append (.refl _)

lemma KeyInfo.plain_form (k : KeyInfo) : k.form.Plain := by
  have hnames : ["id", "children"].Nodup := by decide
  refine plain_record hnames k.names_sublist ?_
  rw [List.forall_mem_append, List.forall_mem_singleton]
  exact ⟨plain_optionalMember Plain.string k.id, plain_array KeyInfoChild.plain_form k.children⟩

/-! ### Forms are read back -/

variable {f : Json → Json} (hf : Reordering f)
include hf

lemma presence_string (s : String) : (ofJson (f (.string s))).presence = .present := by
  rw [hf.string]
  rfl

lemma presence_object (members : List (String × Json)) :
    (ofJson (f (.object members))).presence = .present := by
  obtain ⟨reordered, heq, -⟩ := hf.object members
  rw [heq]
  rfl

@[simp] lemma octetsOfTree?_form (bs : Octets) : octetsOfTree? (ofJson (f (octetsForm bs))) = some bs := by
  unfold octetsOfTree? octetsForm
  rw [text?_string hf]
  exact Base64.decode?_encode bs

namespace KeyUsage

lemma ofTree?_form (u : KeyUsage) : ofTree? (ofJson (f u.form)) = some u := by
  unfold form
  rw [hf.string]
  cases u <;> decide

end KeyUsage

namespace X509Certificate

lemma ofTree?_form (c : X509Certificate) : ofTree? (ofJson (f c.form)) = some c := by
  unfold ofTree? form
  rw [members?_object hf]
  · simp [needed?, octetsOfTree?_form hf]
  · decide
  · exact .refl _

end X509Certificate

namespace KeyValue

lemma ofTree?_form (v : KeyValue) : ofTree? (ofJson (f v.form)) = some v := by
  have hrecord : ∀ members, recordContent? (some (ofJson (f (.object members)))) =
      some (ofJson (f (.object members))) := by
    intro members
    obtain ⟨reordered, heq, -⟩ := hf.object members
    rw [heq]
    rfl
  cases v with
  | rsa modulus exponent =>
    unfold ofTree? form
    rw [variant?_object hf]
    simp only [Option.bind_eq_bind, Option.bind_some, hrecord, if_true]
    rw [members?_object hf]
    · simp [needed?, octetsOfTree?_form hf, List.lookup_cons]
    · decide
    · exact .refl _
  | dsa p q g y =>
    unfold ofTree? form
    rw [variant?_object hf]
    simp only [Option.bind_eq_bind, Option.bind_some, hrecord, String.reduceEq, if_false, if_true]
    rw [members?_object hf]
    · simp [needed?, octetsOfTree?_form hf, List.lookup_cons]
    · decide
    · exact .refl _

end KeyValue

namespace KeyInfoChild

lemma certificates?_form (cs : List X509Certificate) :
    certificates? (ofJson (f (.object [("certificates", .array (cs.map X509Certificate.form))]))) =
      some cs := by
  unfold certificates?
  rw [members?_object hf]
  · simp [orDefault?, listOf?_array hf (X509Certificate.ofTree?_form hf)]
  · decide
  · exact .refl _

lemma ofTree?_form (c : KeyInfoChild) : ofTree? (ofJson (f c.form)) = some c := by
  cases c <;> unfold ofTree? form <;> rw [variant?_object hf]
  · simp [text?_string hf]
  · simp [KeyValue.ofTree?_form hf]
  · simp [octetsOfTree?_form hf]
  · simp [certificates?_form hf]
  · simp [text?_string hf]

end KeyInfoChild

namespace KeyInfo

theorem ofTree?_form (k : KeyInfo) : ofTree? (ofJson (f k.form)) = some k := by
  have hid := optional?_form (text?_string hf) (presence_string hf) k.id
  have hchildren := listOf?_array hf (KeyInfoChild.ofTree?_form hf) k.children
  rw [List.map_id'] at hchildren
  unfold ofTree? form
  rw [members?_object hf]
  · simp only [List.map_cons, List.map_nil, List.lookup_append, lookup_optionalMember,
      List.lookup_cons, List.lookup_nil, beq_self_eq_true, reduceIte, String.reduceEq,
      String.reduceBEq, Option.or_none, Option.none_or]
    simp only [Option.bind_eq_bind, Option.bind_some, Option.map_some, hid, hchildren, orDefault?]
    rfl
  · decide
  · exact k.names_sublist

end KeyInfo

end MetadataTrust
