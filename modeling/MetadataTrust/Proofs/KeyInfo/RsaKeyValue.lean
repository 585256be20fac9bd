import MetadataTrust.Proofs.Der.Reading
import MetadataTrust.Proofs.KeyInfo.ProviderOrder

/-!
# An RSA key has one encoding

A `KeyInfo` can give an RSA key by its two numbers or by its encoding, and trust in a key is trust in the
octets of that encoding.  So the numbers must lead to one encoding, and that must lead back to them:
`rsaKeyValue_one_to_one`.  The encoding is read in two ways, in outline by `PublicKey.decode` and
canonically by `Der.rsaKey?`; both take what `Der.encodeRsaKey` writes.
-/

namespace MetadataTrust

namespace Der

variable {k k' : RsaKey} {algorithm oid key : Octets}

/-! ### Keys that are read back -/

/-- An encoded key, whose algorithm identifier has the given content. -/
def encodeKey (algorithm key : Octets) : Octets :=
  encode 0x30 (encode 0x30 algorithm ++ encode 0x03 (0 :: key))

/-- The two numbers of an RSA key. -/
def rsaNumbers (k : RsaKey) : Octets :=
  encode 0x02 (encodeNatural k.modulus) ++ encode 0x02 (encodeNatural k.exponent)

lemma encodeRsaKey_eq (k : RsaKey) :
    encodeRsaKey k = encodeKey rsaAlgorithm (encode 0x30 (rsaNumbers k)) := rfl

/-- The algorithm and the key are short enough for their encoding to be read. -/
structure Fits (algorithm key : Octets) : Prop where
  algorithm : algorithm.length < 2 ^ 32
  key : key.length < 2 ^ 32

namespace Fits

lemma bits (h : Fits algorithm key) : (0 :: key).length < 2 ^ 64 := by
  have hkey := h.key
  rw [List.length_cons]
  omega

lemma identifier (h : Fits algorithm key) : algorithm.length < 2 ^ 64 := by
  have halgorithm := h.algorithm
  omega

lemma content (h : Fits algorithm key) :
    (encode 0x30 algorithm ++ encode 0x03 (0 :: key)).length < 2 ^ 64 := by
  have halgorithm := h.algorithm
  have hkey := h.key
  have hleft : (encode 0x30 algorithm).length ≤ algorithm.length + 10 := length_encode_le h.identifier
  have hright : (encode 0x03 (0 :: key)).length ≤ (0 :: key).length + 10 := length_encode_le h.bits
  rw [List.length_append]
  rw [List.length_cons] at hright
  omega

end Fits

/-- **The canonical reader finds the key.** -/
lemma keyOctets?_encodeKey (h : Fits algorithm key) :
    keyOctets? algorithm (encodeKey algorithm key) = some key := by
  unfold keyOctets? encodeKey
  rw [readWhole?_encode h.content]
  simp only [Option.bind_eq_bind, Option.bind_some, readCanonical?_encode h.identifier,
    readWhole?_encode h.bits, if_pos]

lemma readAlgorithm?_rsa (rest : Octets) :
    readAlgorithm? (encode 0x30 rsaAlgorithm ++ rest) = some (rsaObjectId, rest) := by
  have hnull : read? (encode 0x05 []) = some (⟨0, false, 5, []⟩, []) := by decide
  refine readSequence?_encode (by decide) (?_ : _ = some (rsaObjectId, ([] : Octets))) rest
  rw [rsaAlgorithm, readObjectId?_encode (by decide)]
  simp only [Option.bind_eq_bind, Option.bind_some, hnull]
  rfl

/-- What the lenient reader asks of the content of an encoding: the algorithm, and what follows the key. -/
def readOutline? : Reader (Octets × Octets) := fun content => do
  let (oid, more) ← readAlgorithm? content
  let (_, left) ← readBitString? more
  return ((oid, left), left)

lemma PublicKeyInfo.read?_of_outline {bs oid : Octets}
    (h : readSequence? readOutline? bs = some ((oid, []), [])) :
    PublicKeyInfo.read? bs = some (⟨oid, bs⟩, []) := by
  have hread : PublicKeyInfo.read? bs = (readSequence? readOutline? bs).bind fun found =>
      some (⟨found.1.1, bs.take (bs.length - found.2.length - found.1.2.length)⟩, found.2) := rfl
  rw [hread, h]
  simp

/-- **The lenient reader takes the whole encoding, and finds the algorithm.** -/
lemma whole?_encodeKey (h : Fits rsaAlgorithm key) :
    PublicKeyInfo.whole? (encodeKey rsaAlgorithm key) =
      some ⟨rsaObjectId, encodeKey rsaAlgorithm key⟩ := by
  have hbits : readBitString? (encode 0x03 (0 :: key)) = some (key, []) := by
    simpa using readBitString?_encode h.bits []
  have hinner : readOutline? (encode 0x30 rsaAlgorithm ++ encode 0x03 (0 :: key)) =
      some ((rsaObjectId, []), []) := by
    unfold readOutline?
    rw [readAlgorithm?_rsa]
    simp only [Option.bind_eq_bind, Option.bind_some, hbits]
    rfl
  have houter := readSequence?_encode h.content hinner []
  rw [List.append_nil] at houter
  rw [PublicKeyInfo.whole?, encodeKey, PublicKeyInfo.read?_of_outline houter]

lemma length_encodeNatural_of_lt {n : Nat} (h : n < 1 <<< 4096) : (encodeNatural n).length ≤ 513 := by
  have hwidth : Octets.width n ≤ 512 := Octets.width_le_of_bits h
  have hlength := length_encodeNatural_le n
  omega

lemma length_encode_natural_le {n : Nat} (h : n < 1 <<< 4096) :
    (encode 0x02 (encodeNatural n)).length ≤ 523 := by
  have hcontent := length_encodeNatural_of_lt h
  have hlength : (encode 0x02 (encodeNatural n)).length ≤ (encodeNatural n).length + 10 :=
    length_encode_le (by omega)
  omega

lemma length_rsaNumbers_le (h : k.Usable) : (rsaNumbers k).length ≤ 1046 := by
  have hmodulus : (encode 0x02 (encodeNatural k.modulus)).length ≤ 523 :=
    length_encode_natural_le h.1
  have hexponent : (encode 0x02 (encodeNatural k.exponent)).length ≤ 523 :=
    length_encode_natural_le (Nat.lt_trans h.2.1 h.1)
  rw [rsaNumbers, List.length_append]
  omega

lemma fits_of_usable (h : k.Usable) : Fits rsaAlgorithm (encode 0x30 (rsaNumbers k)) := by
  have hnumbers := length_rsaNumbers_le h
  have hkey : (encode 0x30 (rsaNumbers k)).length ≤ (rsaNumbers k).length + 10 :=
    length_encode_le (by omega)
  exact ⟨by decide, by omega⟩

/-- **The numbers of a usable key are read back.** -/
theorem rsaKey?_encodeRsaKey (h : k.Usable) : rsaKey? (encodeRsaKey k) = some k := by
  have hnumbers := length_rsaNumbers_le h
  have hmodulus := length_encodeNatural_of_lt h.1
  have hexponent := length_encodeNatural_of_lt (Nat.lt_trans h.2.1 h.1)
  rw [rsaKey?, encodeRsaKey_eq, keyOctets?_encodeKey (fits_of_usable h)]
  simp only [Option.bind_eq_bind, Option.bind_some]
  rw [readWhole?_encode (by omega)]
  simp only [Option.bind_some, rsaNumbers]
  rw [readCanonical?_encode (by omega)]
  simp only [Option.bind_some]
  rw [readWhole?_encode (by omega)]
  simp only [Option.bind_some, naturalContent?_encodeNatural, if_pos h]

end Der

/-! ### Keys and credentials -/

namespace PublicKey

variable {k : RsaKey} {key : PublicKey}

lemma decode_eq_ok_of_whole {bs : Octets} {info : Der.PublicKeyInfo}
    (h : Der.PublicKeyInfo.whole? bs = some info) :
    ∃ key, decode bs = .ok key ∧ key.encoded = bs ∧
      key.algorithm = .ofObjectId (Der.objectIdText info.algorithm) := by
  have hread : (Der.PublicKeyInfo.whole? bs).isSome := by rw [h]; rfl
  refine ⟨⟨bs, hread⟩, dif_pos hread, rfl, ?_⟩
  simp [algorithm, h]

/-- **The encoding of a usable key is that of an RSA key.** -/
lemma decode_encodeRsaKey (h : k.Usable) :
    ∃ key, decode (Der.encodeRsaKey k) = .ok key ∧ key.encoded = Der.encodeRsaKey k ∧
      key.algorithm = .rsa := by
  obtain ⟨key, hkey, hencoded, halgorithm⟩ :=
    decode_eq_ok_of_whole (Der.whole?_encodeKey (Der.fits_of_usable h))
  have hrsa : KeyAlgorithm.ofObjectId (Der.objectIdText Der.rsaObjectId) = .rsa := by
    decide +kernel
  exact ⟨key, hkey, hencoded, halgorithm.trans hrsa⟩

end PublicKey

section Extraction

variable {modulus exponent : Octets} {ctx : ExtractionContext} {kinds : List ProviderKind}

/-- The key that two numbers make. -/
def RsaKey.ofNumbers (modulus exponent : Octets) : RsaKey :=
  ⟨Octets.toNat modulus, Octets.toNat exponent⟩

lemma extractRsa_congr {modulus' exponent' : Octets}
    (h : RsaKey.ofNumbers modulus exponent = RsaKey.ofNumbers modulus' exponent') :
    extractRsa (.keyValue (.rsa modulus exponent)) ctx =
      extractRsa (.keyValue (.rsa modulus' exponent')) ctx := by
  have hkey : RsaKey.ofOctets? modulus exponent = RsaKey.ofOctets? modulus' exponent' :=
    congrArg (fun k : RsaKey => if k.Usable then some k else none) h
  rw [extractRsa, extractRsa, hkey]

lemma extractRsa_of_usable {key : PublicKey} (h : (RsaKey.ofNumbers modulus exponent).Usable)
    (hkey : PublicKey.decode (Der.encodeRsaKey (.ofNumbers modulus exponent)) = .ok key) :
    extractRsa (.keyValue (.rsa modulus exponent)) ctx =
      .ok (some [ctx.decorate (.ofPublicKey key)]) := by
  have hof : RsaKey.ofOctets? modulus exponent = some (.ofNumbers modulus exponent) := if_pos h
  simp only [extractRsa, hof, hkey]
  rfl

lemma extractRsa_of_not_usable (h : ¬ (RsaKey.ofNumbers modulus exponent).Usable) :
    extractRsa (.keyValue (.rsa modulus exponent)) ctx =
      .error (.invalidKeyMaterial .rsaKeyValue .malformed) := by
  have hof : RsaKey.ofOctets? modulus exponent = none := if_neg h
  simp only [extractRsa, hof]

lemma extractEncoded_of_decode {der : Octets} {key : PublicKey} (h : PublicKey.decode der = .ok key) :
    extractEncoded (.encodedKey der) ctx = .ok (some [ctx.decorate (.ofPublicKey key)]) := by
  simp only [extractEncoded, h]
  rfl

/-- A chain that understands both forms makes the same of the numbers and of the encoding. -/
lemma extractChild_encodedKey (h : (RsaKey.ofNumbers modulus exponent).Usable)
    (hvalue : .rsaKeyValue ∈ kinds) (hencoded : .encodedKey ∈ kinds) :
    extractChild ctx (.encodedKey (Der.encodeRsaKey (.ofNumbers modulus exponent)))
        (kinds.map (·.provider)) =
      extractChild ctx (.keyValue (.rsa modulus exponent)) (kinds.map (·.provider)) := by
  obtain ⟨key, hkey, -, -⟩ := PublicKey.decode_encodeRsaKey h
  have hder : ProviderKind.encodedKey.handles
      (.encodedKey (Der.encodeRsaKey (.ofNumbers modulus exponent))) = true := rfl
  have hnumbers : ProviderKind.rsaKeyValue.handles (.keyValue (.rsa modulus exponent)) = true := rfl
  rw [extractChild_of_found hencoded hder (extractEncoded_of_decode hkey),
    extractChild_of_found hvalue hnumbers (extractRsa_of_usable h hkey)]

/-- A `KeyInfo` counts by what is extracted from it and by the names that it gives. -/
lemma localKeyInfoResolver_congr {providers : List KeyInfoProvider} {info info' : KeyInfo}
    (hextract : ∀ usage, extract providers info usage = extract providers info' usage)
    (hnames : info.keyNames = info'.keyNames) (store : Resolver Credential) (c : Criteria) :
    localKeyInfoResolver providers store { c with keyInfo := some info } =
      localKeyInfoResolver providers store { c with keyInfo := some info' } := by
  have hresolve (i : KeyInfo) : localKeyInfoResolver providers store { c with keyInfo := some i } = (do
      let keys := (extract providers i c.wantedUsage).filterMap (·.publicKey)
      let byKey ← store.concat (keys.map fun key =>
        { publicKey := some key, usage := some c.wantedUsage })
      if byKey.isEmpty then
        store.concat (i.keyNames.map fun name =>
          { keyName := some name, usage := some c.wantedUsage })
      else return byKey) := rfl
  rw [hresolve, hresolve, hextract, hnames]

/-- Whichever of the two children a `KeyInfo` has, the providers find the same entries of every store. -/
def KeyInfoChild.SameEntries (providers : List KeyInfoProvider) (child child' : KeyInfoChild) : Prop :=
  ∀ (store : Resolver Credential) (c : Criteria) (id : Option String)
    (before after : List KeyInfoChild),
    localKeyInfoResolver providers store
        { c with keyInfo := some ⟨id, before ++ child :: after⟩ } =
      localKeyInfoResolver providers store
        { c with keyInfo := some ⟨id, before ++ child' :: after⟩ }

/-- In a `KeyInfo` the one form may stand for the other. -/
lemma sameEntries_encodedKey (h : (RsaKey.ofNumbers modulus exponent).Usable)
    (hvalue : .rsaKeyValue ∈ kinds) (hencoded : .encodedKey ∈ kinds) :
    KeyInfoChild.SameEntries (kinds.map (·.provider))
      (.encodedKey (Der.encodeRsaKey (.ofNumbers modulus exponent)))
      (.keyValue (.rsa modulus exponent)) := by
  intro store c id before after
  have hnames : KeyInfo.keyNames ⟨id, before ++
        .encodedKey (Der.encodeRsaKey (.ofNumbers modulus exponent)) :: after⟩ =
      KeyInfo.keyNames ⟨id, before ++ .keyValue (.rsa modulus exponent) :: after⟩ := by
    unfold KeyInfo.keyNames
    rw [List.filterMap_append, List.filterMap_append]
    rfl
  refine localKeyInfoResolver_congr (fun usage => ?_) hnames store c
  have hctx := congrArg (ExtractionContext.mk · usage) hnames
  unfold extract ExtractionContext.ofKeyInfo
  rw [hctx, List.flatMap_append, List.flatMap_append, List.flatMap_cons, List.flatMap_cons,
    extractChild_encodedKey h hvalue hencoded]

/-- **An RSA key value names a key, and the encoding of that key names it back.**  What is extracted from
two numbers depends on nothing but the numbers, so zeros in front do not count, and there is a credential
exactly if the key is usable.  Its encoding is then that of an RSA key; given in the place of the numbers,
it leads to the same credential and to the same entries of any store; the check of signatures decodes it
to the same numbers; and no other usable key has it. -/
theorem rsaKeyValue_one_to_one (modulus exponent : Octets) (ctx : ExtractionContext) :
    let k := RsaKey.ofNumbers modulus exponent
    let der := Der.encodeRsaKey k
    (∀ modulus' exponent', RsaKey.ofNumbers modulus' exponent' = k →
      extractRsa (.keyValue (.rsa modulus' exponent')) ctx =
        extractRsa (.keyValue (.rsa modulus exponent)) ctx) ∧
    (∀ m n, RsaKey.ofNumbers (List.replicate m 0 ++ modulus) (List.replicate n 0 ++ exponent) = k) ∧
    ((∃ found, extractRsa (.keyValue (.rsa modulus exponent)) ctx = .ok (some found)) ↔ k.Usable) ∧
    (k.Usable →
      (∃ key, PublicKey.decode der = .ok key ∧ key.encoded = der ∧ key.algorithm = .rsa ∧
        extractRsa (.keyValue (.rsa modulus exponent)) ctx =
          .ok (some [ctx.decorate (.ofPublicKey key)]) ∧
        extractEncoded (.encodedKey der) ctx = .ok (some [ctx.decorate (.ofPublicKey key)])) ∧
      (∀ kinds : List ProviderKind, .rsaKeyValue ∈ kinds → .encodedKey ∈ kinds →
        KeyInfoChild.SameEntries (kinds.map (·.provider)) (.encodedKey der)
          (.keyValue (.rsa modulus exponent))) ∧
      Der.rsaKey? der = some k ∧
      ∀ k' : RsaKey, k'.Usable → Der.encodeRsaKey k' = der → k' = k) := by
  intro k der
  refine ⟨fun _ _ => extractRsa_congr, fun m n => ?_, ⟨?_, ?_⟩, fun h => ⟨?_, ?_, ?_, ?_⟩⟩
  · unfold RsaKey.ofNumbers
    rw [Octets.toNat_leadingZeros, Octets.toNat_leadingZeros]
    rfl
  · rintro ⟨found, hfound⟩
    by_contra h
    rw [extractRsa_of_not_usable h] at hfound
    cases hfound
  · intro h
    obtain ⟨key, hkey, -, -⟩ := PublicKey.decode_encodeRsaKey h
    exact ⟨_, extractRsa_of_usable h hkey⟩
  · obtain ⟨key, hkey, hencoded, halgorithm⟩ := PublicKey.decode_encodeRsaKey h
    exact ⟨key, hkey, hencoded, halgorithm, extractRsa_of_usable h hkey, extractEncoded_of_decode hkey⟩
  · exact fun kinds => sameEntries_encodedKey h
  · exact Der.rsaKey?_encodeRsaKey h
  · intro k' h' heq
    have hread := Der.rsaKey?_encodeRsaKey h'
    rw [heq] at hread
    exact Option.some.inj (hread.symm.trans (Der.rsaKey?_encodeRsaKey h))

end Extraction

/-! ### A small key -/

namespace RsaKeyValueSample

/-- The numbers 15 and 3, the first one with a zero in front, name the key of an encoding. -/
theorem small_key_named :
    (RsaKey.ofNumbers [0, 15] [3]).Usable ∧
    (∃ found, extractRsa (.keyValue (.rsa [0, 15] [3])) {} = .ok (some found)) ∧
    Der.rsaKey? (Der.encodeRsaKey ⟨15, 3⟩) = some ⟨15, 3⟩ := by
  have h : (RsaKey.ofNumbers [0, 15] [3]).Usable := by decide +kernel
  obtain ⟨-, -, hfound, hread⟩ := rsaKeyValue_one_to_one [0, 15] [3] {}
  exact ⟨h, hfound.2 h, (hread h).2.2.1⟩

end RsaKeyValueSample

end MetadataTrust
