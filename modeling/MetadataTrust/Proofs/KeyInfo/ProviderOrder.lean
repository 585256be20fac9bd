import MetadataTrust.KeyInfo.Resolver
import MetadataTrust.Proofs.KeyInfo.Extraction

/-!
# The order of providers

The built-in providers share the children of a `KeyInfo` by their form: no child is understood by two kinds
(`ProviderKind.handles_unique`).  So a provider has nothing to win from standing first and nothing to lose
from standing last, and what a chain extracts can be said without going through it: the children that one of
its members understands, and what each of them gives to the one kind that understands it (`extract_kinds`).
-/

namespace MetadataTrust

/-! ### Who understands a child -/

/-- The kind of provider that understands a child. -/
def KeyInfoChild.kind? : KeyInfoChild → Option ProviderKind
  | .keyValue (.rsa ..) => some .rsaKeyValue
  | .encodedKey _ => some .encodedKey
  | .x509Data _ => some .certificates
  | .keyName _ | .keyValue (.dsa ..) | .unknown _ => none

/-- The credentials that a provider's outcome comes to. -/
def credentialsOf : Except SecurityError (Option (List Credential)) → List Credential
  | .ok (some found) => found
  | .ok none | .error _ => []

/-- What the provider that understands a child finds in it. -/
def KeyInfoChild.credentials (child : KeyInfoChild) (ctx : ExtractionContext) : List Credential :=
  match child.kind? with
  | some kind => credentialsOf (kind.provider.process child ctx)
  | none => []

section Kinds

variable {kind kind' : ProviderKind} {kinds kinds' : List ProviderKind} {child : KeyInfoChild}
  {ctx : ExtractionContext} {found : List Credential}

lemma ProviderKind.provider_handles (kind : ProviderKind) (child : KeyInfoChild) :
    kind.provider.handles child = kind.handles child := rfl

lemma ProviderKind.handles_iff : kind.handles child = true ↔ child.kind? = some kind := by
  cases child with
  | keyValue value => cases value <;> cases kind <;> simp [handles, KeyInfoChild.kind?]
  | keyName | encodedKey | x509Data | unknown => cases kind <;> simp [handles, KeyInfoChild.kind?]

/-- **No child is understood by two kinds.** -/
lemma ProviderKind.handles_unique (h : kind.handles child = true) (h' : kind'.handles child = true) :
    kind = kind' :=
  Option.some.inj ((handles_iff.1 h).symm.trans (handles_iff.1 h'))

lemma KeyInfoChild.credentials_of_handles (h : kind.handles child = true) :
    child.credentials ctx = credentialsOf (kind.provider.process child ctx) := by
  rw [credentials, ProviderKind.handles_iff.1 h]

/-! ### What a chain makes of a child -/

/-- **A chain leaves a child to the one kind that understands it**, wherever and however often that stands in
the chain. -/
lemma extractChild_kinds (kinds : List ProviderKind) :
    extractChild ctx child (kinds.map (·.provider)) =
      if kinds.any (·.handles child) then child.credentials ctx else [] := by
  induction kinds with
  | nil => rfl
  | cons first more ih =>
    rw [List.map_cons, extractChild, List.any_cons, ProviderKind.provider_handles, ih]
    cases hfirst : first.handles child with
    | false => rfl
    | true =>
      rw [Bool.true_or, if_pos rfl, if_pos rfl, KeyInfoChild.credentials_of_handles hfirst]
      rcases first.provider.process child ctx with err | _ | found
      · rfl
      · -- the child is passed on, to its own kind again or to nobody
        exact ite_self []
      · rfl

/-- What a member of the chain finds in a child that it understands, the chain does. -/
lemma extractChild_of_found (hkind : kind ∈ kinds) (h : kind.handles child = true)
    (hfound : kind.provider.process child ctx = .ok (some found)) :
    extractChild ctx child (kinds.map (·.provider)) = found := by
  have hany : kinds.any (·.handles child) = true := List.any_eq_true.2 ⟨kind, hkind, h⟩
  rw [extractChild_kinds, if_pos hany, KeyInfoChild.credentials_of_handles h, hfound]
  rfl

/-! ### What a chain extracts -/

/-- **A chain reads the children that one of its members understands**, in document order. -/
theorem extract_kinds (kinds : List ProviderKind) (info : KeyInfo) (usage : KeyUsage) :
    extract (kinds.map (·.provider)) info usage =
      (info.children.filter fun child => kinds.any (·.handles child)).flatMap
        (·.credentials ⟨info.keyNames, usage⟩) := by
  rw [extract, ExtractionContext.ofKeyInfo]
  generalize (⟨info.keyNames, usage⟩ : ExtractionContext) = ctx
  induction info.children with
  | nil => rfl
  | cons child more ih =>
    rw [List.flatMap_cons, ih, extractChild_kinds, List.filter_cons]
    split
    · rw [List.flatMap_cons]
    · rw [List.nil_append]

lemma any_handles_congr (hsame : ∀ kind, kind ∈ kinds ↔ kind ∈ kinds') (child : KeyInfoChild) :
    kinds.any (·.handles child) = kinds'.any (·.handles child) := by
  rw [Bool.eq_iff_iff, List.any_eq_true, List.any_eq_true]
  exact exists_congr fun kind => and_congr_left' (hsame kind)

/-- Without a kind, a chain understands what it did, but not the children of this kind. -/
lemma any_handles_without (kinds : List ProviderKind) (kind : ProviderKind) (child : KeyInfoChild) :
    (kinds.filter (· ≠ kind)).any (·.handles child) =
      (!kind.handles child && kinds.any (·.handles child)) := by
  rw [Bool.eq_iff_iff, Bool.and_eq_true, Bool.not_eq_true', List.any_eq_true, List.any_eq_true]
  constructor
  · rintro ⟨other, hmem, h⟩
    obtain ⟨hother, hne⟩ := List.mem_filter.1 hmem
    refine ⟨eq_false_of_ne_true fun hkind => ?_, other, hother, h⟩
    exact of_decide_eq_true hne (ProviderKind.handles_unique h hkind)
  · rintro ⟨hkind, other, hother, h⟩
    refine ⟨other, List.mem_filter.2 ⟨hother, decide_eq_true ?_⟩, h⟩
    rintro rfl
    exact absurd h (by simp [hkind])

theorem extract_of_same_members (hsame : ∀ kind, kind ∈ kinds ↔ kind ∈ kinds') (info : KeyInfo)
    (usage : KeyUsage) :
    extract (kinds.map (·.provider)) info usage = extract (kinds'.map (·.provider)) info usage := by
  rw [extract_kinds, extract_kinds]
  simp only [any_handles_congr hsame]

end Kinds

/-! ### What resolvers make of it -/

section Resolvers

variable {providers providers' : List KeyInfoProvider}

/-- Providers count by what they extract. -/
lemma keyInfoResolver_congr_providers (h : extract providers = extract providers') :
    keyInfoResolver providers = keyInfoResolver providers' := by
  unfold keyInfoResolver
  rw [h]

lemma localKeyInfoResolver_congr_providers (h : extract providers = extract providers')
    (store : Resolver Credential) :
    localKeyInfoResolver providers store = localKeyInfoResolver providers' store := by
  unfold localKeyInfoResolver
  rw [h]

end Resolvers

/-- **Which kinds of providers stand in a chain is all that matters**, not their order or how often each is
there.

* The chain reads the children that one of its members understands, in document order.  What each gives is
  what the kind that understands it finds in it, and there is no more than one such kind.
* Chains with the same members extract the same from every `KeyInfo`, and so they resolve the same and fail
  alike, over whatever store.
* A chain from which a kind is removed reads the same children but those of this kind, each with what it gave
  before. -/
theorem extraction_by_members (kinds : List ProviderKind) (info : KeyInfo) (usage : KeyUsage) :
    let ctx : ExtractionContext := ⟨info.keyNames, usage⟩
    let read := info.children.filter fun child => kinds.any (·.handles child)
    extract (kinds.map (·.provider)) info usage = read.flatMap (·.credentials ctx) ∧
    (∀ kind child, kind.handles child = true →
      child.credentials ctx = credentialsOf (kind.provider.process child ctx) ∧
      ∀ other : ProviderKind, other.handles child = true → other = kind) ∧
    (∀ kinds' : List ProviderKind, (∀ kind, kind ∈ kinds' ↔ kind ∈ kinds) →
      extract (kinds'.map (·.provider)) info usage = extract (kinds.map (·.provider)) info usage ∧
      (∀ c, keyInfoResolver (kinds'.map (·.provider)) c = keyInfoResolver (kinds.map (·.provider)) c) ∧
      ∀ store c, localKeyInfoResolver (kinds'.map (·.provider)) store c =
        localKeyInfoResolver (kinds.map (·.provider)) store c) ∧
    ∀ kind, extract ((kinds.filter (· ≠ kind)).map (·.provider)) info usage =
      (read.filter fun child => !kind.handles child).flatMap (·.credentials ctx) := by
  intro ctx read
  refine ⟨extract_kinds kinds info usage, ?_, ?_, ?_⟩
  · intro kind child h
    exact ⟨KeyInfoChild.credentials_of_handles h, fun other hother => ProviderKind.handles_unique hother h⟩
  · intro kinds' hsame
    have hextract : extract (kinds'.map (·.provider)) = extract (kinds.map (·.provider)) := by
      funext info usage
      exact extract_of_same_members hsame info usage
    refine ⟨congrFun (congrFun hextract info) usage, fun c => ?_, fun store c => ?_⟩
    · rw [keyInfoResolver_congr_providers hextract]
    · rw [localKeyInfoResolver_congr_providers hextract]
  · intro kind
    rw [extract_kinds, List.filter_filter]
    simp only [any_handles_without]
    rfl

/-! ### An encoded key -/

namespace ProviderOrderSample

def key : PublicKey where
  encoded := Der.encodeEd25519Key (Octets.ofNat 32 9)
  readable := by decide +kernel

/-- An encoded key between a name and an element that no provider understands. -/
def info : KeyInfo where
  children := [.keyName "sp-key", .encodedKey key.encoded, .unknown "PGPData"]

/-- What is extracted for signing. -/
def extracted (kinds : List ProviderKind) : List Credential :=
  extract (kinds.map (·.provider)) info .signing

/-- The key is found wherever its kind stands in the chain, once, and not without it. -/
theorem found_anywhere_not_without :
    (∀ kind, kind ∈ [.encodedKey, .rsaKeyValue, .encodedKey] ↔
      kind ∈ [ProviderKind.rsaKeyValue, .encodedKey]) ∧
    extracted [.encodedKey, .rsaKeyValue, .encodedKey] = extracted [.rsaKeyValue, .encodedKey] ∧
    (extracted [.rsaKeyValue, .encodedKey]).map (·.publicKey) = [some key] ∧
    extracted [.rsaKeyValue] = [] := by
  have hsame : ∀ kind, kind ∈ [.encodedKey, .rsaKeyValue, .encodedKey] ↔
      kind ∈ [ProviderKind.rsaKeyValue, .encodedKey] := by
    intro kind
    cases kind <;> decide
  obtain ⟨-, -, hmembers, hwithout⟩ :=
    extraction_by_members [.rsaKeyValue, .encodedKey] info .signing
  refine ⟨hsame, (hmembers _ hsame).1, by decide +kernel, ?_⟩
  exact (hwithout .encodedKey).trans (by decide +kernel)

end ProviderOrderSample

end MetadataTrust
