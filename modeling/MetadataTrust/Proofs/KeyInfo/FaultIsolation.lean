import MetadataTrust.KeyInfo.Resolver
import MetadataTrust.Proofs.KeyInfo.Extraction

/-!
# A fault stays with its child

What a chain makes of a child is settled by the first provider that is asked and does not pass it on
(`Consults`).  A child that nobody who is asked finds anything in gives nothing (`Fruitless`), and wherever
it is put among other children, these give what they gave before, unless it is a name: names are the one
thing that all children share.
-/

namespace MetadataTrust

/-- The chain asks `p` about a child: `p` understands it, and all before it that do have passed it on. -/
def Consults (providers : List KeyInfoProvider) (ctx : ExtractionContext) (child : KeyInfoChild)
    (p : KeyInfoProvider) : Prop :=
  ∃ before after, providers = before ++ p :: after ∧ p.handles child = true ∧
    ∀ q ∈ before, q.handles child = true → q.process child ctx = .ok none

/-- Whoever is asked about the child passes it on or fails. -/
def Fruitless (providers : List KeyInfoProvider) (ctx : ExtractionContext) (child : KeyInfoChild) : Prop :=
  ∀ p, Consults providers ctx child p → ∀ found, p.process child ctx ≠ .ok (some found)

section Chain

variable {providers : List KeyInfoProvider} {ctx : ExtractionContext} {child : KeyInfoChild}
  {p q : KeyInfoProvider} {found : List Credential}

lemma consults_cons :
    Consults (q :: providers) ctx child p ↔ q = p ∧ p.handles child = true ∨
      (q.handles child = true → q.process child ctx = .ok none) ∧ Consults providers ctx child p := by
  constructor
  · rintro ⟨before, after, hsplit, hp, hbefore⟩
    rcases before with _ | ⟨b, before⟩
    · exact .inl ⟨(List.cons.inj hsplit).1, hp⟩
    · obtain ⟨rfl, rfl⟩ := List.cons.inj hsplit
      obtain ⟨hq, hbefore⟩ := List.forall_mem_cons.1 hbefore
      exact .inr ⟨hq, before, after, rfl, hp, hbefore⟩
  · rintro (⟨rfl, hp⟩ | ⟨hq, before, after, rfl, hp, hbefore⟩)
    · exact ⟨[], providers, rfl, hp, by simp⟩
    · exact ⟨q :: before, after, rfl, hp, List.forall_mem_cons.2 ⟨hq, hbefore⟩⟩

lemma Consults.mem (h : Consults providers ctx child p) : p ∈ providers := by
  obtain ⟨before, after, rfl, -, -⟩ := h
  exact List.mem_append_right before List.mem_cons_self

/-- A provider that does not understand the child, or passes it on, might as well not be there. -/
lemma extractChild_cons_of_passes (h : q.handles child = true → q.process child ctx = .ok none) :
    extractChild ctx child (q :: providers) = extractChild ctx child providers := by
  rw [extractChild]
  by_cases hq : q.handles child = true
  · rw [if_pos hq, h hq]
  · rw [if_neg hq]

/-- **Who finds something settles the child**, and no one after it is asked. -/
theorem extractChild_of_consults (h : Consults providers ctx child p)
    (hfound : p.process child ctx = .ok (some found)) : extractChild ctx child providers = found := by
  induction providers with
  | nil => cases h.mem
  | cons q providers ih =>
    rcases consults_cons.1 h with ⟨rfl, hq⟩ | ⟨hq, hmore⟩
    · rw [extractChild, if_pos hq, hfound]
    · rw [extractChild_cons_of_passes hq, ih hmore]

theorem extractChild_of_fruitless (h : Fruitless providers ctx child) :
    extractChild ctx child providers = [] := by
  induction providers with
  | nil => rfl
  | cons q providers ih =>
    have hmore (hq : q.handles child = true → q.process child ctx = .ok none) :
        extractChild ctx child (q :: providers) = [] := by
      rw [extractChild_cons_of_passes hq]
      exact ih fun p hp => h p (consults_cons.2 (.inr ⟨hq, hp⟩))
    by_cases hq : q.handles child = true
    · rcases hout : q.process child ctx with err | _ | found
      · rw [extractChild, if_pos hq, hout]
      · exact hmore fun _ => hout
      · exact absurd hout (h q (consults_cons.2 (.inl ⟨rfl, hq⟩)) found)
    · exact hmore fun hq' => absurd hq' hq

end Chain

/-! ### One more child -/

section Insertion

variable {providers : List KeyInfoProvider} {info : KeyInfo} {usage : KeyUsage} {child : KeyInfoChild}
  {before after : List KeyInfoChild}

lemma KeyInfo.keyNames_insert (hsplit : info.children = before ++ after) (hname : child.name? = none) :
    KeyInfo.keyNames { info with children := before ++ child :: after } = info.keyNames := by
  simp only [keyNames, hsplit, List.filterMap_append, List.filterMap_cons, hname]

/-- What a child that is no name gives is put where it stands, and all else stays. -/
theorem extract_insert (hsplit : info.children = before ++ after) (hname : child.name? = none) :
    extract providers { info with children := before ++ child :: after } usage =
      before.flatMap (fun c => extractChild (.ofKeyInfo info usage) c providers) ++
        (extractChild (.ofKeyInfo info usage) child providers ++
          after.flatMap fun c => extractChild (.ofKeyInfo info usage) c providers) := by
  have hctx : ExtractionContext.ofKeyInfo { info with children := before ++ child :: after } usage =
      .ofKeyInfo info usage :=
    congrArg (fun names => (⟨names, usage⟩ : ExtractionContext)) (KeyInfo.keyNames_insert hsplit hname)
  rw [extract, hctx, List.flatMap_append, List.flatMap_cons]

lemma extract_insert_fruitless (hsplit : info.children = before ++ after) (hname : child.name? = none)
    (h : Fruitless providers (.ofKeyInfo info usage) child) :
    extract providers { info with children := before ++ child :: after } usage =
      extract providers info usage := by
  rw [extract_insert hsplit hname, extractChild_of_fruitless h, List.nil_append, extract, hsplit,
    List.flatMap_append]

end Insertion

/-! ### Children without keys -/

/-- A child that has no key for a built-in provider: no provider understands its form, it holds nothing, or
what it holds cannot be read. -/
inductive KeyInfoChild.Barren : KeyInfoChild → Prop
  | unknown (element : String) : Barren (.unknown element)
  | dsa (p q g y : Octets) : Barren (.keyValue (.dsa p q g y))
  | noCertificates : Barren (.x509Data [])
  | badNumbers {modulus exponent : Octets} (h : RsaKey.ofOctets? modulus exponent = none) :
    Barren (.keyValue (.rsa modulus exponent))
  | badKey {der : Octets} {err : SecurityError} (h : PublicKey.decode der = .error err) :
    Barren (.encodedKey der)
  | badCertificate {entity : X509Certificate} {more : List X509Certificate} {err : SecurityError}
    (h : entity.publicKey = .error err) : Barren (.x509Data (entity :: more))
  | badSubject {entity : X509Certificate} {more : List X509Certificate} {err : SecurityError}
    (h : entity.subjectNames = .error err) : Barren (.x509Data (entity :: more))

section BuiltIn

variable {kind : ProviderKind} {ctx : ExtractionContext} {child : KeyInfoChild}

lemma KeyInfoChild.Barren.name?_eq (h : child.Barren) : child.name? = none := by
  cases h <;> rfl

lemma KeyInfoChild.Barren.process_ne (h : child.Barren) (found : List Credential) :
    kind.provider.process child ctx ≠ .ok (some found) := by
  intro hfound
  cases h with
  | unknown | dsa | noCertificates => cases kind <;> cases hfound
  | @badNumbers modulus exponent h =>
    cases kind with
    | rsaKeyValue =>
      change extractRsa (.keyValue (.rsa modulus exponent)) ctx = .ok (some found) at hfound
      rw [extractRsa, h] at hfound
      cases hfound
    | encodedKey | certificates => cases hfound
  | @badKey der err h =>
    cases kind with
    | encodedKey =>
      change extractEncoded (.encodedKey der) ctx = .ok (some found) at hfound
      rw [extractEncoded, h] at hfound
      cases hfound
    | rsaKeyValue | certificates => cases hfound
  | @badCertificate entity more err h =>
    cases kind with
    | certificates =>
      change extractCertificates (.x509Data (entity :: more)) ctx = .ok (some found) at hfound
      rw [extractCertificates, h] at hfound
      cases hfound
    | rsaKeyValue | encodedKey => cases hfound
  | @badSubject entity more err h =>
    cases kind with
    | certificates =>
      change extractCertificates (.x509Data (entity :: more)) ctx = .ok (some found) at hfound
      obtain ⟨key, -, hfound⟩ := Except.bind_eq_ok_iff.1 hfound
      rw [h] at hfound
      cases hfound
    | rsaKeyValue | encodedKey => cases hfound

lemma KeyInfoChild.Barren.fruitless (h : child.Barren) (kinds : List ProviderKind) :
    Fruitless (kinds.map (·.provider)) ctx child := by
  intro p hp found
  obtain ⟨kind, -, rfl⟩ := List.mem_map.1 hp.mem
  exact h.process_ne found

end BuiltIn

/-- **Extraction never fails, and a fault stays with its child.**  What is extracted for a usage is put
together, in document order, from what each child gives by itself: that depends on the child, the usage and
the names of the `KeyInfo` in their order, not on other children.  A child gives what the first provider that
is asked and finds something found, and nothing if all that are asked pass it on or fail.  Such a child,
unless it is a name, can be put anywhere without changing what is extracted; the built-in providers find
nothing in children that they do not understand, that are empty or that cannot be read.  Whatever these
providers extract is a bare public key for the usage, known by all names of the `KeyInfo`. -/
theorem extraction_isolates_faults (providers : List KeyInfoProvider) (info : KeyInfo) (usage : KeyUsage) :
    (∀ c : Criteria, keyInfoResolver providers { c with keyInfo := some info, usage := some usage } =
      .ok (extract providers info usage)) ∧
    (∃ piece : KeyInfoChild → List Credential,
      (∀ child p found, Consults providers ⟨info.keyNames, usage⟩ child p →
        p.process child ⟨info.keyNames, usage⟩ = .ok (some found) → piece child = found) ∧
      (∀ child, Fruitless providers ⟨info.keyNames, usage⟩ child → piece child = []) ∧
      ∀ info' : KeyInfo, info'.keyNames = info.keyNames →
        extract providers info' usage = info'.children.flatMap piece) ∧
    (∀ before child after, info.children = before ++ after → child.name? = none →
      Fruitless providers ⟨info.keyNames, usage⟩ child →
      extract providers { info with children := before ++ child :: after } usage =
        extract providers info usage) ∧
    ∀ kinds : List ProviderKind, providers = kinds.map (·.provider) →
      (∀ child : KeyInfoChild, child.Barren →
        child.name? = none ∧ Fruitless providers ⟨info.keyNames, usage⟩ child) ∧
      ∀ k ∈ extract providers info usage, k.usage = usage ∧ (∀ name ∈ info.keyNames, name ∈ k.keyNames) ∧
        k.publicKey.isSome = true ∧ k.privateKey = none ∧ k.entityId = none := by
  refine ⟨fun _ => rfl, ?_, ?_, ?_⟩
  · refine ⟨fun child => extractChild ⟨info.keyNames, usage⟩ child providers, ?_, ?_, ?_⟩
    · intro child p found hp hfound
      exact extractChild_of_consults hp hfound
    · intro child h
      exact extractChild_of_fruitless h
    · intro info' hnames
      rw [extract, ExtractionContext.ofKeyInfo, hnames]
  · intro before child after hsplit hname h
    exact extract_insert_fruitless hsplit hname h
  · rintro kinds rfl
    refine ⟨fun child h => ⟨h.name?_eq, h.fruitless kinds⟩, fun k hk => ?_⟩
    obtain ⟨child, -, hk⟩ := List.mem_flatMap.1 hk
    have hstamps := stamps_of_mem_extractChild hk
    exact ⟨hstamps.usage_eq, hstamps.named, hstamps.holdsKey, hstamps.privateKey_eq, hstamps.entityId_eq⟩

end MetadataTrust
