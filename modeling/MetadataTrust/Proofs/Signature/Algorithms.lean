import Mathlib.Algebra.Group.Nat.Defs
import Mathlib.Tactic.Common
import MetadataTrust.Proofs.Signature.References

/-!
# A signature value has one algorithm

The algorithm of a signature is not part of what its value proves, so it must not be possible to choose
another one for the same value.  Ed25519 and RSA are told apart by the key.  The RSA algorithms are told
apart by the message that a value decrypts to: its padding ends at the first octet that is not `FF`, which
leaves what is announced after it, and that is of another length for each hash function.  Nothing is
assumed of the hash functions but the lengths of their digests.
-/

namespace MetadataTrust

/-! ### Padded messages -/

/-- Runs of one octet that end at another have one length. -/
lemma replicate_append_cons_inj {a b : UInt8} (hab : a ≠ b) {m n : Nat} {t t' : Octets}
    (h : List.replicate m a ++ b :: t = List.replicate n a ++ b :: t') : m = n ∧ t = t' := by
  induction m generalizing n with
  | zero =>
    cases n with
    | zero => exact ⟨rfl, (List.cons.inj h).2⟩
    | succ n => exact absurd (List.cons.inj h).1.symm hab
  | succ m ih =>
    cases n with
    | zero => exact absurd (List.cons.inj h).1 hab
    | succ n =>
      obtain ⟨rfl, ht⟩ := ih (List.cons.inj h).2
      exact ⟨rfl, ht⟩

namespace RsaKey

variable {k : RsaKey} {info digest t t' value : Octets}

/-- The value decrypts to the padded message that announces `t`, as PKCS #1 has it: written in as many
octets as the modulus, it starts with `00 01`, is filled with `FF`, and ends with `00` and `t`, before
which stand eleven octets at least. -/
structure Announces (k : RsaKey) (value t : Octets) : Prop where
  length : value.length = k.size
  below : Octets.toNat value < k.modulus
  room : t.length + 11 ≤ k.size
  message : Octets.ofNat k.size (Octets.toNat value ^ k.exponent % k.modulus) =
    0x00 :: 0x01 :: (List.replicate (k.size - t.length - 3) 0xFF ++ 0x00 :: t)

theorem verifies_iff : k.verifies info digest value = true ↔ k.Announces value (info ++ digest) := by
  have hpadded (em : Octets) : paddedDigest? k.size info digest = some em ↔
      (info ++ digest).length + 11 ≤ k.size ∧ em = 0x00 :: 0x01 ::
        (List.replicate (k.size - (info ++ digest).length - 3) 0xFF ++ 0x00 :: (info ++ digest)) := by
    unfold paddedDigest?
    by_cases hroom : k.size < (info ++ digest).length + 11
    · simp only [if_pos hroom, reduceCtorEq, false_iff]
      rintro ⟨hle, -⟩
      omega
    · simp only [if_neg hroom, Option.some.injEq]
      exact ⟨fun h => ⟨Nat.not_lt.1 hroom, h.symm⟩, fun h => h.2.symm⟩
  unfold verifies
  rw [Bool.and_eq_true, Bool.and_eq_true, beq_iff_eq, decide_eq_true_iff, beq_iff_eq, hpadded,
    powMod_eq, Nat.pow_eq]
  constructor
  · rintro ⟨⟨hlength, hbelow⟩, hroom, hmessage⟩
    exact ⟨hlength, hbelow, hroom, hmessage⟩
  · intro h
    exact ⟨⟨h.length, h.below⟩, h.room, h.message⟩

/-- **A value announces one thing only**: where the padding ends is seen from the message. -/
theorem Announces.unique (h : k.Announces value t) (h' : k.Announces value t') : t = t' := by
  have hmessages := h.message.symm.trans h'.message
  have hpadded := (List.cons.inj (List.cons.inj hmessages).2).2
  exact (replicate_append_cons_inj (by decide) hpadded).2

end RsaKey

/-! ### Algorithms -/

namespace SignatureAlgorithm

variable {a b : SignatureAlgorithm}

lemma ofUri?_eq_some_iff {u : String} : ofUri? u = some a ↔ u = a.uri := by
  constructor
  · intro h
    unfold ofUri? at h
    have huri := List.find?_some h
    exact (of_decide_eq_true huri).symm
  · rintro rfl
    cases a <;> decide

/-- What an RSA algorithm announces of a message: the hash function, and the digest. -/
def announcement? : SignatureAlgorithm → Octets → Option Octets
  | .ed25519, _ => none
  | .rsaSha1, message => some (sha1DigestInfo ++ Sha1.sha1 message)
  | .rsaSha256, message => some (sha256DigestInfo ++ Sha2.sha256 message)
  | .rsaSha512, message => some (sha512DigestInfo ++ Sha2.sha512 message)

lemma exists_announcement_iff (a : SignatureAlgorithm) (message : Octets) :
    (∃ t, a.announcement? message = some t) ↔ a.keyAlgorithm = .rsa := by
  cases a with
  | ed25519 => exact iff_of_false nofun nofun
  | rsaSha1 => exact iff_of_true ⟨_, rfl⟩ rfl
  | rsaSha256 => exact iff_of_true ⟨_, rfl⟩ rfl
  | rsaSha512 => exact iff_of_true ⟨_, rfl⟩ rfl

/-- The number of octets that an algorithm announces. -/
def announcedSize : SignatureAlgorithm → Nat
  | .ed25519 => 0
  | .rsaSha1 => 35
  | .rsaSha256 => 51
  | .rsaSha512 => 83

lemma length_announcement {message t : Octets} (h : a.announcement? message = some t) :
    t.length = a.announcedSize := by
  cases a with
  | ed25519 => cases h
  | rsaSha1 =>
    obtain rfl := Option.some.inj h
    rw [List.length_append, Sha1.length_sha1]
    rfl
  | rsaSha256 =>
    obtain rfl := Option.some.inj h
    rw [List.length_append, Sha2.length_sha256]
    rfl
  | rsaSha512 =>
    obtain rfl := Option.some.inj h
    rw [List.length_append, Sha2.length_sha512]
    rfl

lemma announcedSize_injective (h : a.announcedSize = b.announcedSize) : a = b := by
  cases a <;> cases b <;> first | rfl | cases h

/-- **No two algorithms announce the same thing**, whatever the messages. -/
lemma eq_of_announcement {message message' t : Octets} (h : a.announcement? message = some t)
    (h' : b.announcement? message' = some t) : a = b :=
  announcedSize_injective ((length_announcement h).symm.trans (length_announcement h'))

lemma verify_rsa_eq_ok_iff {key : PublicKey} {message value t : Octets}
    (h : a.announcement? message = some t) :
    a.verify key message value = .ok () ↔
      ∃ k, Der.rsaKey? key.encoded = some k ∧ k.Announces value t := by
  have hrsa (info digest : Octets) : verifyRsa info digest key.encoded value = .ok () ↔
      ∃ k, Der.rsaKey? key.encoded = some k ∧ k.Announces value (info ++ digest) := by
    unfold verifyRsa
    cases Der.rsaKey? key.encoded with
    | none => simp
    | some k => simp [← RsaKey.verifies_iff]
  cases a with
  | ed25519 => cases h
  | rsaSha1 =>
    obtain rfl := Option.some.inj h
    exact hrsa sha1DigestInfo (Sha1.sha1 message)
  | rsaSha256 =>
    obtain rfl := Option.some.inj h
    exact hrsa sha256DigestInfo (Sha2.sha256 message)
  | rsaSha512 =>
    obtain rfl := Option.some.inj h
    exact hrsa sha512DigestInfo (Sha2.sha512 message)

/-- One key takes one value under one algorithm, whatever the messages. -/
lemma eq_of_verify {key : PublicKey} {message message' value : Octets}
    (ha : key.algorithm = a.keyAlgorithm) (hb : key.algorithm = b.keyAlgorithm)
    (h : a.verify key message value = .ok ()) (h' : b.verify key message' value = .ok ()) : a = b := by
  by_cases hrsa : key.algorithm = .rsa
  · obtain ⟨t, ht⟩ := (exists_announcement_iff a message).2 (ha.symm.trans hrsa)
    obtain ⟨t', ht'⟩ := (exists_announcement_iff b message').2 (hb.symm.trans hrsa)
    obtain ⟨k, hk, hannounces⟩ := (verify_rsa_eq_ok_iff ht).1 h
    obtain ⟨k', hk', hannounces'⟩ := (verify_rsa_eq_ok_iff ht').1 h'
    obtain rfl := Option.some.inj (hk.symm.trans hk')
    obtain rfl : t = t' := hannounces.unique hannounces'
    exact eq_of_announcement ht ht'
  · have hed (c : SignatureAlgorithm) (hc : key.algorithm = c.keyAlgorithm) : c = .ed25519 := by
      cases c with
      | ed25519 => rfl
      | rsaSha1 => exact absurd hc hrsa
      | rsaSha256 => exact absurd hc hrsa
      | rsaSha512 => exact absurd hc hrsa
    rw [hed a ha, hed b hb]

end SignatureAlgorithm

/-! ### Signatures -/

variable {s s' : Signature} {k : Credential}

/-- **Under the URI of an RSA algorithm a signature is validated by the check of PKCS #1.** -/
theorem validateSignature_rsa_iff {a : SignatureAlgorithm} {t : Octets} (huri : s.algorithm = a.uri)
    (ht : a.announcement? s.signedInfo = some t) :
    validateSignature s k = .ok () ↔
      ∃ key rsa, k.publicKey = some key ∧ key.algorithm = .rsa ∧
        Der.rsaKey? key.encoded = some rsa ∧ rsa.Announces s.value t := by
  have hrsa : a.keyAlgorithm = .rsa := (SignatureAlgorithm.exists_announcement_iff a s.signedInfo).1 ⟨t, ht⟩
  rw [validateSignature_eq_ok_iff]
  constructor
  · rintro ⟨b, key, hb, hkey, halgorithm, hverify⟩
    obtain rfl : a = b := Option.some.inj
      ((SignatureAlgorithm.ofUri?_eq_some_iff.2 huri).symm.trans hb)
    obtain ⟨rsa, hdecoded, hannounces⟩ := (SignatureAlgorithm.verify_rsa_eq_ok_iff ht).1 hverify
    exact ⟨key, rsa, hkey, halgorithm.trans hrsa, hdecoded, hannounces⟩
  · rintro ⟨key, rsa, hkey, halgorithm, hdecoded, hannounces⟩
    exact ⟨a, key, SignatureAlgorithm.ofUri?_eq_some_iff.2 huri, hkey, halgorithm.trans hrsa.symm,
      (SignatureAlgorithm.verify_rsa_eq_ok_iff ht).2 ⟨rsa, hdecoded, hannounces⟩⟩

/-- **No other algorithm can be put in the place of the one that a signature value was made with.**  One
credential accepts a value under one URI at most, even over other octets.  An Ed25519 key takes nothing
but Ed25519 signatures, and an RSA key nothing but RSA signatures; under the URI of an RSA algorithm a
value is accepted exactly if it decrypts to the padded message that announces the hash function and the
digest of the signed octets. -/
theorem signature_algorithm_unique (k : Credential) :
    (∀ s s', s.value = s'.value → validateSignature s k = .ok () → validateSignature s' k = .ok () →
      s.algorithm = s'.algorithm) ∧
    (∀ s, validateSignature s k = .ok () → ∃ key, k.publicKey = some key ∧
      (key.algorithm = .ed25519 ∧ s.algorithm = SignatureAlgorithm.ed25519.uri ∨
        key.algorithm = .rsa ∧ s.algorithm ∈ [SignatureAlgorithm.rsaSha1.uri,
          SignatureAlgorithm.rsaSha256.uri, SignatureAlgorithm.rsaSha512.uri])) ∧
    ∀ s a t, s.algorithm = SignatureAlgorithm.uri a → a.announcement? s.signedInfo = some t →
      (validateSignature s k = .ok () ↔ ∃ key rsa, k.publicKey = some key ∧ key.algorithm = .rsa ∧
        Der.rsaKey? key.encoded = some rsa ∧ rsa.Announces s.value t) := by
  refine ⟨?_, ?_, fun s a t => validateSignature_rsa_iff⟩
  · intro s s' hvalue h h'
    obtain ⟨a, key, ha, hkey, hkeya, hverify⟩ := validateSignature_eq_ok_iff.1 h
    obtain ⟨b, key', hb, hkey', hkeyb, hverify'⟩ := validateSignature_eq_ok_iff.1 h'
    obtain rfl := Option.some.inj (hkey.symm.trans hkey')
    rw [← hvalue] at hverify'
    obtain rfl := SignatureAlgorithm.eq_of_verify hkeya hkeyb hverify hverify'
    rw [SignatureAlgorithm.ofUri?_eq_some_iff.1 ha, SignatureAlgorithm.ofUri?_eq_some_iff.1 hb]
  · intro s h
    obtain ⟨a, key, ha, hkey, hkeya, -⟩ := validateSignature_eq_ok_iff.1 h
    refine ⟨key, hkey, ?_⟩
    rw [SignatureAlgorithm.ofUri?_eq_some_iff.1 ha]
    cases a with
    | ed25519 => exact .inl ⟨hkeya, rfl⟩
    | rsaSha1 => exact .inr ⟨hkeya, by simp⟩
    | rsaSha256 => exact .inr ⟨hkeya, by simp⟩
    | rsaSha512 => exact .inr ⟨hkeya, by simp⟩

/-! ### A signature under RSA with SHA-1 -/

namespace AlgorithmSample

def key : RsaKey where
  modulus := 0xb920a17398ca3ece15f5c823098382104e96037d1c048808e8bf3dee5d77dc9939e4b975078daabbcc8ab477430d
  exponent := 3

lemma readable_key : (Der.PublicKeyInfo.whole? (Der.encodeRsaKey key)).isSome := by
  decide +kernel

def credential : Credential where
  publicKey := some ⟨Der.encodeRsaKey key, readable_key⟩

def signature : Signature where
  algorithm := SignatureAlgorithm.rsaSha1.uri
  signedInfo := Octets.ofText "<SignedInfo/>"
  value := Octets.ofNat 46
    0x588546cecaa9607686c72babae74ef8e7d2f85f46c5a008a9bc3916f877b0bd8c7f151b7535a7a906da60c539d60

/-- The signature is valid, whatever is said about canonicalization, and under no other URI. -/
theorem valid_under_one_uri :
    validateSignature signature credential = .ok () ∧
    validateSignature { signature with canonicalization := exclusiveC14nWithComments } credential =
      .ok () ∧
    ∀ u, validateSignature { signature with algorithm := u } credential = .ok () →
      u = SignatureAlgorithm.rsaSha1.uri := by
  have h : validateSignature signature credential = .ok () := by decide +kernel
  refine ⟨h, by decide +kernel, fun u hu => ?_⟩
  exact (signature_algorithm_unique credential).1 { signature with algorithm := u } signature rfl hu h

end AlgorithmSample

end MetadataTrust
