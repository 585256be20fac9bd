import MetadataTrust.Proofs.Base64
import MetadataTrust.Proofs.Octets
import MetadataTrust.Proofs.Signature.References

/-!
# What the signed octets say about the content

References come with a signature unprotected; only the signed octets are signed.  Still an accepted
reference is read off the signed octets: its digest is the Base64 text between a `DigestValue>` and the
next `<`.  If there is only one `DigestValue>`, the signed octets alone decide which digest an accepted
content has, and by which algorithm (`Signature.signedInfo_fixes_digest`).
-/

namespace MetadataTrust

/-! ### Texts between a mark and the next bracket -/

namespace Octets

/-- The octets before the text of a digest. -/
def digestMark : Octets := ofText "DigestValue>"

/-- The octet after the text of a digest. -/
def openBracket : UInt8 := 60

/-- The pattern begins at position `i`. -/
def OccursAt (pattern bs : Octets) (i : Nat) : Prop := pattern <+: bs.drop i

/-- At position `i` stands a mark, and from there to the next bracket the octets are `text`. -/
structure DigestAt (bs : Octets) (i : Nat) (text : Octets) : Prop where
  mark : OccursAt digestMark bs i
  text_then : (text ++ [openBracket]) <+: bs.drop (i + digestMark.length)
  noBracket : openBracket ∉ text

variable {bs text text' : Octets} {i : Nat}

lemma takeWhile_of_prefix (h : (text ++ [openBracket]) <+: bs) (hno : openBracket ∉ text) :
    bs.takeWhile (· ≠ openBracket) = text := by
  obtain ⟨tail, rfl⟩ := h
  have hall : ∀ b ∈ text, decide (b ≠ openBracket) = true := by
    intro b hb
    exact decide_eq_true fun heq => hno (heq ▸ hb)
  rw [List.append_assoc, List.takeWhile_append_of_pos hall, List.singleton_append,
    List.takeWhile_cons_of_neg (by simp), List.append_nil]

/-- **What stands at one position is one text**, as it ends where the first bracket is. -/
theorem DigestAt.unique (h : DigestAt bs i text) (h' : DigestAt bs i text') : text = text' := by
  rw [← takeWhile_of_prefix h.text_then h.noBracket, takeWhile_of_prefix h'.text_then h'.noBracket]

end Octets

namespace Base64

lemma openBracket_not_mem (bs : Octets) : Octets.openBracket ∉ Octets.ofText (encode bs) := by
  have hascii : ∀ c ∈ encodeChars bs, c.toNat < 128 := by
    intro c hc
    have := toNat_of_mem_encodeChars hc
    omega
  rw [encode, Octets.ofText_ascii hascii]
  intro hmem
  obtain ⟨c, hc, heq⟩ := List.mem_map.1 hmem
  have hc' := toNat_of_mem_encodeChars hc
  have heq := congrArg UInt8.toNat heq
  rw [UInt8.toNat_ofNat', Octets.openBracket] at heq
  have h60 : (60 : UInt8).toNat = 60 := rfl
  omega

end Base64

/-! ### Digest algorithms -/

namespace DigestAlgorithm

/-- The number of octets of a digest. -/
def size : DigestAlgorithm → Nat
  | .sha1 => 20
  | .sha256 => 32
  | .sha384 => 48
  | .sha512 => 64

variable {a b : DigestAlgorithm}

lemma length_hash (a : DigestAlgorithm) (content : Octets) : (a.hash content).length = a.size := by
  cases a
  · exact Sha1.length_sha1 content
  · exact Sha2.length_sha256 content
  · exact Sha2.length_sha384 content
  · exact Sha2.length_sha512 content

lemma size_injective (h : a.size = b.size) : a = b := by
  cases a <;> cases b <;> first | rfl | cases h

/-- No two algorithms ever give the same digest. -/
lemma eq_of_hash_eq {c d : Octets} (h : a.hash c = b.hash d) : a = b := by
  have hlength := congrArg List.length h
  rw [length_hash, length_hash] at hlength
  exact size_injective hlength

lemma uri_of_ofUri? {u : String} (h : ofUri? u = some a) : u = a.uri := by
  unfold ofUri? at h
  have huri := List.find?_some h
  exact (of_decide_eq_true huri).symm

end DigestAlgorithm

lemma digest_eq_ok_iff {u : String} {content d : Octets} :
    digest u content = .ok d ↔ ∃ a, DigestAlgorithm.ofUri? u = some a ∧ a.hash content = d := by
  unfold digest
  cases DigestAlgorithm.ofUri? u <;> simp

/-! ### Accepted references -/

/-- The text of a digest. -/
def digestText (d : Octets) : Octets := Octets.ofText (Base64.encode d)

lemma digestText_injective {d d' : Octets} (h : digestText d = digestText d') : d = d' :=
  Base64.encode_injective (Octets.ofText_injective h)

lemma ContentReference.coverage_eq (r : ContentReference) :
    r.coverage = Octets.digestMark ++ (digestText r.digestValue ++ [Octets.openBracket]) := by
  have hbracket : Octets.ofText "<" = [Octets.openBracket] := by decide
  unfold coverage digestText Octets.digestMark
  rw [Octets.ofText_append, Octets.ofText_append, hbracket, List.append_assoc]

/-- **A covered digest stands between a mark and the next bracket.** -/
theorem ContentReference.exists_digestAt {r : ContentReference} {signedInfo : Octets}
    (h : r.coverage <:+: signedInfo) :
    ∃ i, Octets.DigestAt signedInfo i (digestText r.digestValue) := by
  obtain ⟨before, after, rfl⟩ := h
  rw [r.coverage_eq]
  refine ⟨before.length, ?_, ?_, Base64.openBracket_not_mem _⟩
  · unfold Octets.OccursAt
    simp only [List.append_assoc, List.drop_left, List.prefix_append]
  · have hshift : before.length + Octets.digestMark.length = (before ++ Octets.digestMark).length :=
      List.length_append.symm
    have hsplit : before ++ (Octets.digestMark ++ (digestText r.digestValue ++ [Octets.openBracket])) ++
        after = (before ++ Octets.digestMark) ++
          ((digestText r.digestValue ++ [Octets.openBracket]) ++ after) := by
      simp only [List.append_assoc]
    rw [hshift, hsplit, List.drop_left]
    exact List.prefix_append _ _

namespace Signature

/-- A signature over the signed octets `signedInfo` is accepted for a content, as far as its references
go. -/
structure AcceptedFor (s : Signature) (signedInfo content : Octets) : Prop where
  signedInfo_eq : s.signedInfo = signedInfo
  verified : s.verifyReferences content = .ok ()

/-- The digest of a reference that is accepted with the signed octets, in whatever signature and for
whatever content. -/
def AcceptedDigest (signedInfo d : Octets) : Prop :=
  ∃ s content, AcceptedFor s signedInfo content ∧ ∃ r ∈ s.references, r.digestValue = d

variable {s s' : Signature} {signedInfo content content' : Octets} {r r' : ContentReference}

namespace AcceptedFor

lemma reference (h : s.AcceptedFor signedInfo content) (hr : r ∈ s.references) :
    r.digestValue ≠ [] ∧ digest r.digestAlgorithm content = .ok r.digestValue ∧
      r.coverage <:+: signedInfo := by
  obtain ⟨-, hall⟩ := verifyReferences_eq_ok_iff.1 h.verified
  have hverify := ContentReference.verify_eq_ok_iff.1 (hall r hr)
  rwa [h.signedInfo_eq] at hverify

lemma exists_reference (h : s.AcceptedFor signedInfo content) : ∃ r, r ∈ s.references :=
  List.exists_mem_of_ne_nil _ (verifyReferences_eq_ok_iff.1 h.verified).1

lemma exists_hash (h : s.AcceptedFor signedInfo content) (hr : r ∈ s.references) :
    ∃ a : DigestAlgorithm, r.digestAlgorithm = a.uri ∧ a.hash content = r.digestValue := by
  obtain ⟨-, hdigest, -⟩ := h.reference hr
  obtain ⟨a, ha, hhash⟩ := digest_eq_ok_iff.1 hdigest
  exact ⟨a, DigestAlgorithm.uri_of_ofUri? ha, hhash⟩

/-- Where there is one mark only, accepted digests are the same. -/
lemma digestValue_eq (h : s.AcceptedFor signedInfo content) (hr : r ∈ s.references)
    (h' : s'.AcceptedFor signedInfo content') (hr' : r' ∈ s'.references)
    (hone : ∃! i, Octets.OccursAt Octets.digestMark signedInfo i) :
    r.digestValue = r'.digestValue := by
  obtain ⟨i, hi⟩ := ContentReference.exists_digestAt (h.reference hr).2.2
  obtain ⟨j, hj⟩ := ContentReference.exists_digestAt (h'.reference hr').2.2
  obtain rfl : i = j := hone.unique hi.mark hj.mark
  exact digestText_injective (hi.unique hj)

end AcceptedFor

/-- Each accepted digest has a place of its own among the marks. -/
theorem exists_places (signedInfo : Octets) : ∃ place : Octets → Nat,
    (∀ d, AcceptedDigest signedInfo d → Octets.DigestAt signedInfo (place d) (digestText d)) ∧
    ∀ d d', AcceptedDigest signedInfo d → AcceptedDigest signedInfo d' → place d = place d' →
      d = d' := by
  have hplace : ∀ d, ∃ i, AcceptedDigest signedInfo d →
      Octets.DigestAt signedInfo i (digestText d) := by
    intro d
    by_cases hd : AcceptedDigest signedInfo d
    · obtain ⟨s, content, h, r, hr, rfl⟩ := hd
      obtain ⟨i, hi⟩ := ContentReference.exists_digestAt (h.reference hr).2.2
      exact ⟨i, fun _ => hi⟩
    · exact ⟨0, fun h => absurd h hd⟩
  choose place hplace using hplace
  refine ⟨place, hplace, fun d d' hd hd' heq => ?_⟩
  have hat := hplace d hd
  rw [heq] at hat
  exact digestText_injective (hat.unique (hplace d' hd'))

/-- Where there is one mark only, one algorithm and one digest serve all that is accepted. -/
theorem exists_digest_of_existsUnique
    (hone : ∃! i, Octets.OccursAt Octets.digestMark signedInfo i) :
    ∃ (a : DigestAlgorithm) (d : Octets), ∀ s content, AcceptedFor s signedInfo content →
      a.hash content = d ∧ ∀ r ∈ s.references, r.digestAlgorithm = a.uri ∧ r.digestValue = d := by
  by_cases hsome : ∃ s content, AcceptedFor s signedInfo content
  · obtain ⟨s, content, h⟩ := hsome
    obtain ⟨r, hr⟩ := h.exists_reference
    obtain ⟨a, -, ha⟩ := h.exists_hash hr
    have hsame : ∀ s' content', AcceptedFor s' signedInfo content' → ∀ r' ∈ s'.references,
        a.hash content' = r.digestValue ∧ r'.digestAlgorithm = a.uri ∧
          r'.digestValue = r.digestValue := by
      intro s' content' h' r' hr'
      have hvalue : r'.digestValue = r.digestValue := h'.digestValue_eq hr' h hr hone
      obtain ⟨b, hb, hhash⟩ := h'.exists_hash hr'
      -- the algorithm is told by the length of the digest
      obtain rfl : b = a := DigestAlgorithm.eq_of_hash_eq (by rw [hhash, hvalue, ha])
      exact ⟨hhash.trans hvalue, hb, hvalue⟩
    refine ⟨a, r.digestValue, fun s' content' h' => ⟨?_, fun r' hr' => ?_⟩⟩
    · obtain ⟨r', hr'⟩ := h'.exists_reference
      exact (hsame s' content' h' r' hr').1
    · exact (hsame s' content' h' r' hr').2
  · exact ⟨.sha1, [], fun s content h => absurd ⟨s, content, h⟩ hsome⟩

/-- **Signed octets fix the digests that are accepted with them.**  Each accepted digest is the text
between a `DigestValue>` and the next `<`, and different ones have different places.  If the mark occurs
just once, all accepted references carry one digest and name one algorithm, and any two accepted
contents are the same or a collision of that one hash function.  Nothing is accepted without a
reference, without a digest, or by an algorithm that is not known. -/
theorem signedInfo_fixes_digest (signedInfo : Octets) :
    (∃ place : Octets → Nat,
      (∀ d, AcceptedDigest signedInfo d →
        Octets.DigestAt signedInfo (place d) (Octets.ofText (Base64.encode d))) ∧
      ∀ d d', AcceptedDigest signedInfo d → AcceptedDigest signedInfo d' → place d = place d' →
        d = d') ∧
    ((∃! i, Octets.OccursAt Octets.digestMark signedInfo i) →
      ∃ (a : DigestAlgorithm) (d : Octets),
        (∀ s content, AcceptedFor s signedInfo content → ∀ r ∈ s.references,
          r.digestAlgorithm = a.uri ∧ r.digestValue = d) ∧
        ∀ s content s' content', AcceptedFor s signedInfo content →
          AcceptedFor s' signedInfo content' →
          content = content' ∨ content ≠ content' ∧ a.hash content = a.hash content') ∧
    ∀ s content, AcceptedFor s signedInfo content →
      s.references ≠ [] ∧ ∀ r ∈ s.references,
        r.digestValue ≠ [] ∧ ∃ a : DigestAlgorithm, r.digestAlgorithm = a.uri := by
  refine ⟨exists_places signedInfo, fun hone => ?_, fun s content h => ⟨?_, fun r hr => ⟨?_, ?_⟩⟩⟩
  · obtain ⟨a, d, h⟩ := exists_digest_of_existsUnique hone
    refine ⟨a, d, fun s content hs => (h s content hs).2, ?_⟩
    intro s content s' content' hs hs'
    by_cases heq : content = content'
    · exact .inl heq
    · exact .inr ⟨heq, (h s content hs).1.trans (h s' content' hs').1.symm⟩
  · exact (verifyReferences_eq_ok_iff.1 h.verified).1
  · exact (h.reference hr).1
  · obtain ⟨a, ha, -⟩ := h.exists_hash hr
    exact ⟨a, ha⟩

end Signature

/-! ### One mark -/

namespace CoverageSample

/-- The reference with the SHA-1 digest of no octets at all. -/
def reference : ContentReference where
  digestAlgorithm := DigestAlgorithm.sha1.uri
  digestValue := Octets.ofNat 20 0xda39a3ee5e6b4b0d3255bfef95601890afd80709

def signature : Signature where
  algorithm := SignatureAlgorithm.ed25519.uri
  signedInfo := reference.coverage
  value := []
  references := [reference]

lemma occursAt_iff (i : Nat) : Octets.OccursAt Octets.digestMark signature.signedInfo i ↔ i = 0 := by
  have hshort : ∀ i < 41, Octets.digestMark.isPrefixOf (signature.signedInfo.drop i) = (i == 0) := by
    decide +kernel
  unfold Octets.OccursAt
  by_cases hi : i < 41
  · rw [← List.isPrefixOf_iff_prefix, hshort i hi, beq_iff_eq]
  · have hnil : signature.signedInfo.drop i = [] := by
      have hlength : signature.signedInfo.length = 41 := by decide +kernel
      exact List.drop_eq_nil_of_le (by omega)
    have hmark : Octets.digestMark ≠ [] := by decide
    rw [hnil, List.prefix_nil]
    exact ⟨fun h => absurd h hmark, by omega⟩

/-- Other contents that the signed octets would be accepted for collide with the empty one. -/
theorem accepted_or_collision :
    signature.AcceptedFor signature.signedInfo [] ∧
    ∃ a : DigestAlgorithm, ∀ s content, Signature.AcceptedFor s signature.signedInfo content →
      content = [] ∨ content ≠ [] ∧ a.hash content = a.hash [] := by
  have haccepted : signature.AcceptedFor signature.signedInfo [] := ⟨rfl, by decide +kernel⟩
  have hone : ∃! i, Octets.OccursAt Octets.digestMark signature.signedInfo i :=
    ⟨0, (occursAt_iff 0).2 rfl, fun i hi => (occursAt_iff i).1 hi⟩
  obtain ⟨a, d, -, hcollision⟩ :=
    (Signature.signedInfo_fixes_digest signature.signedInfo).2.1 hone
  exact ⟨haccepted, a, fun s content h => hcollision s content signature [] h haccepted⟩

end CoverageSample

end MetadataTrust
