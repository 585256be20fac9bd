import MetadataTrust.Octets

/-!
The SHA-2 hash functions of FIPS 180-4.

SHA-256 works on 32-bit words, SHA-384 and SHA-512 on 64-bit words; everything but the constants is
the same, so one compression function is written over a `Family` of constants.  A block is extended
word by word, keeping only the sixteen words that later words depend on.
-/

namespace MetadataTrust.Sha2

/-- Eight chaining words. -/
structure State (W : Type) where
  a : W
  b : W
  c : W
  d : W
  e : W
  f : W
  g : W
  h : W

/-- What tells one word size from the other. -/
structure Family (W : Type) where
  /-- Octets in a word. -/
  wordSize : Nat
  ofNat : Nat → W
  toNat : W → Nat
  rotateRight : W → Nat → W
  shiftRight : W → Nat → W
  /-- Rotations of the two functions on the working words. -/
  upper0 : Nat × Nat × Nat
  upper1 : Nat × Nat × Nat
  /-- Two rotations and a shift, for each of the two functions on the schedule. -/
  lower0 : Nat × Nat × Nat
  lower1 : Nat × Nat × Nat
  /-- One constant for each round. -/
  rounds : List W

variable {W : Type} [Add W] [XorOp W] [AndOp W] [Complement W]

namespace Family

variable (F : Family W)

/-- The exclusive or of three rotations. -/
def upper (r : Nat × Nat × Nat) (x : W) : W :=
  F.rotateRight x r.1 ^^^ F.rotateRight x r.2.1 ^^^ F.rotateRight x r.2.2

/-- The exclusive or of two rotations and a shift. -/
def lower (r : Nat × Nat × Nat) (x : W) : W :=
  F.rotateRight x r.1 ^^^ F.rotateRight x r.2.1 ^^^ F.shiftRight x r.2.2

/-- One round with round constant `k` and schedule word `w`. -/
def round (s : State W) (k w : W) : State W :=
  let t1 := s.h + F.upper F.upper1 s.e + ((s.e &&& s.f) ^^^ (~~~s.e &&& s.g)) + k + w
  let t2 := F.upper F.upper0 s.a + ((s.a &&& s.b) ^^^ (s.a &&& s.c) ^^^ (s.b &&& s.c))
  ⟨t1 + t2, s.a, s.b, s.c, s.d + t1, s.e, s.f, s.g⟩

/-- The schedule word that follows the sixteen words of `window`. -/
def nextWord (window : List W) : W :=
  let w (i : Nat) : W := window.getD i (F.ofNat 0)
  F.lower F.lower1 (w 14) + w 9 + F.lower F.lower0 (w 1) + w 0

/-- All rounds, one for each constant; `window` starts with the word of the first of them. -/
def runRounds : List W → List W → State W → State W
  | [], _, s => s
  | k :: ks, window, s =>
    runRounds ks (window.drop 1 ++ [F.nextWord window])
      (F.round s k (window.headD (F.ofNat 0)))

/-- Takes one block into the chaining words. -/
def compress (s : State W) (block : Octets) : State W :=
  let words := (Octets.chunks F.wordSize block).map fun bs => F.ofNat (Octets.toNat bs)
  let t := F.runRounds F.rounds words s
  ⟨s.a + t.a, s.b + t.b, s.c + t.c, s.d + t.d, s.e + t.e, s.f + t.f, s.g + t.g, s.h + t.h⟩

/-- The message, a single one bit, zeros, and the message's length in bits, in whole blocks. -/
def pad (message : Octets) : Octets :=
  let block := 16 * F.wordSize
  let used := (message.length + 1 + 2 * F.wordSize) % block
  message ++ 0x80 :: List.replicate ((block - used) % block) 0 ++
    Octets.ofNat (2 * F.wordSize) (8 * message.length)

/-- The chaining words after the whole message. -/
def finalState (initial : State W) (message : Octets) : State W :=
  (Octets.chunks (16 * F.wordSize) (F.pad message)).foldl F.compress initial

/-- The octets of a word. -/
def word (x : W) : Octets := Octets.ofNat F.wordSize (F.toNat x)

end Family

/-- The constants of SHA-256. -/
def family32 : Family UInt32 where
  wordSize := 4
  ofNat := UInt32.ofNat
  toNat := UInt32.toNat
  rotateRight x n := (x >>> UInt32.ofNat n) ||| (x <<< UInt32.ofNat (32 - n))
  shiftRight x n := x >>> UInt32.ofNat n
  upper0 := (2, 13, 22)
  upper1 := (6, 11, 25)
  lower0 := (7, 18, 3)
  lower1 := (17, 19, 10)
  rounds := [
    0x428a2f98, 0x71374491, 0xb5c0fbcf, 0xe9b5dba5, 0x3956c25b, 0x59f111f1,
    0x923f82a4, 0xab1c5ed5, 0xd807aa98, 0x12835b01, 0x243185be, 0x550c7dc3,
    0x72be5d74, 0x80deb1fe, 0x9bdc06a7, 0xc19bf174, 0xe49b69c1, 0xefbe4786,
    0x0fc19dc6, 0x240ca1cc, 0x2de92c6f, 0x4a7484aa, 0x5cb0a9dc, 0x76f988da,
    0x983e5152, 0xa831c66d, 0xb00327c8, 0xbf597fc7, 0xc6e00bf3, 0xd5a79147,
    0x06ca6351, 0x14292967, 0x27b70a85, 0x2e1b2138, 0x4d2c6dfc, 0x53380d13,
    0x650a7354, 0x766a0abb, 0x81c2c92e, 0x92722c85, 0xa2bfe8a1, 0xa81a664b,
    0xc24b8b70, 0xc76c51a3, 0xd192e819, 0xd6990624, 0xf40e3585, 0x106aa070,
    0x19a4c116, 0x1e376c08, 0x2748774c, 0x34b0bcb5, 0x391c0cb3, 0x4ed8aa4a,
    0x5b9cca4f, 0x682e6ff3, 0x748f82ee, 0x78a5636f, 0x84c87814, 0x8cc70208,
    0x90befffa, 0xa4506ceb, 0xbef9a3f7, 0xc67178f2]

/-- The constants that SHA-384 and SHA-512 share. -/
def family64 : Family UInt64 where
  wordSize := 8
  ofNat := UInt64.ofNat
  toNat := UInt64.toNat
  rotateRight x n := (x >>> UInt64.ofNat n) ||| (x <<< UInt64.ofNat (64 - n))
  shiftRight x n := x >>> UInt64.ofNat n
  upper0 := (28, 34, 39)
  upper1 := (14, 18, 41)
  lower0 := (1, 8, 7)
  lower1 := (19, 61, 6)
  rounds := [
    0x428a2f98d728ae22, 0x7137449123ef65cd, 0xb5c0fbcfec4d3b2f, 0xe9b5dba58189dbbc,
    0x3956c25bf348b538, 0x59f111f1b605d019, 0x923f82a4af194f9b, 0xab1c5ed5da6d8118,
    0xd807aa98a3030242, 0x12835b0145706fbe, 0x243185be4ee4b28c, 0x550c7dc3d5ffb4e2,
    0x72be5d74f27b896f, 0x80deb1fe3b1696b1, 0x9bdc06a725c71235, 0xc19bf174cf692694,
    0xe49b69c19ef14ad2, 0xefbe4786384f25e3, 0x0fc19dc68b8cd5b5, 0x240ca1cc77ac9c65,
    0x2de92c6f592b0275, 0x4a7484aa6ea6e483, 0x5cb0a9dcbd41fbd4, 0x76f988da831153b5,
    0x983e5152ee66dfab, 0xa831c66d2db43210, 0xb00327c898fb213f, 0xbf597fc7beef0ee4,
    0xc6e00bf33da88fc2, 0xd5a79147930aa725, 0x06ca6351e003826f, 0x142929670a0e6e70,
    0x27b70a8546d22ffc, 0x2e1b21385c26c926, 0x4d2c6dfc5ac42aed, 0x53380d139d95b3df,
    0x650a73548baf63de, 0x766a0abb3c77b2a8, 0x81c2c92e47edaee6, 0x92722c851482353b,
    0xa2bfe8a14cf10364, 0xa81a664bbc423001, 0xc24b8b70d0f89791, 0xc76c51a30654be30,
    0xd192e819d6ef5218, 0xd69906245565a910, 0xf40e35855771202a, 0x106aa07032bbd1b8,
    0x19a4c116b8d2d0c8, 0x1e376c085141ab53, 0x2748774cdf8eeb99, 0x34b0bcb5e19b48a8,
    0x391c0cb3c5c95a63, 0x4ed8aa4ae3418acb, 0x5b9cca4f7763e373, 0x682e6ff3d6b2b8a3,
    0x748f82ee5defb2fc, 0x78a5636f43172f60, 0x84c87814a1f0ab72, 0x8cc702081a6439ec,
    0x90befffa23631e28, 0xa4506cebde82bde9, 0xbef9a3f7b2c67915, 0xc67178f2e372532b,
    0xca273eceea26619c, 0xd186b8c721c0c207, 0xeada7dd6cde0eb1e, 0xf57d4f7fee6ed178,
    0x06f067aa72176fba, 0x0a637dc5a2c898a6, 0x113f9804bef90dae, 0x1b710b35131c471b,
    0x28db77f523047d84, 0x32caab7b40c72493, 0x3c9ebe0a15c9bebc, 0x431d67c49c100d4c,
    0x4cc5d4becb3e42b6, 0x597f299cfc657e2a, 0x5fcb6fab3ad6faec, 0x6c44198c4a475817]

/-- The SHA-256 hash. -/
def sha256 (message : Octets) : Octets :=
  let s := family32.finalState
    ⟨0x6a09e667, 0xbb67ae85, 0x3c6ef372, 0xa54ff53a,
      0x510e527f, 0x9b05688c, 0x1f83d9ab, 0x5be0cd19⟩ message
  let o := family32.word
  o s.a ++ o s.b ++ o s.c ++ o s.d ++ o s.e ++ o s.f ++ o s.g ++ o s.h

/-- The SHA-512 hash. -/
def sha512 (message : Octets) : Octets :=
  let s := family64.finalState
    ⟨0x6a09e667f3bcc908, 0xbb67ae8584caa73b, 0x3c6ef372fe94f82b, 0xa54ff53a5f1d36f1,
      0x510e527fade682d1, 0x9b05688c2b3e6c1f, 0x1f83d9abfb41bd6b, 0x5be0cd19137e2179⟩ message
  let o := family64.word
  o s.a ++ o s.b ++ o s.c ++ o s.d ++ o s.e ++ o s.f ++ o s.g ++ o s.h

/-- The SHA-384 hash: SHA-512 from other initial words, without the last two words. -/
def sha384 (message : Octets) : Octets :=
  let s := family64.finalState
    ⟨0xcbbb9d5dc1059ed8, 0x629a292a367cd507, 0x9159015a3070dd17, 0x152fecd8f70e5939,
      0x67332667ffc00b31, 0x8eb44a8768581511, 0xdb0c2e0d64f98fa7, 0x47b5481dbefa4fa4⟩ message
  let o := family64.word
  o s.a ++ o s.b ++ o s.c ++ o s.d ++ o s.e ++ o s.f

@[simp] theorem length_sha256 (message : Octets) : (sha256 message).length = 32 := by
  simp [sha256, Family.word, family32]

@[simp] theorem length_sha384 (message : Octets) : (sha384 message).length = 48 := by
  simp [sha384, Family.word, family64]

@[simp] theorem length_sha512 (message : Octets) : (sha512 message).length = 64 := by
  simp [sha512, Family.word, family64]

end MetadataTrust.Sha2
