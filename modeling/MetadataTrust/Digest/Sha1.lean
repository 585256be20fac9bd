import MetadataTrust.Octets

/-!
The SHA-1 hash function of FIPS 180-4.

Eighty rounds in four groups of twenty, each with a function and a constant of its own.
-/

namespace MetadataTrust.Sha1

/-- Five chaining words. -/
structure State where
  a : UInt32
  b : UInt32
  c : UInt32
  d : UInt32
  e : UInt32

/-- Rotates the bits of a word to the left. -/
def rotateLeft (x : UInt32) (n : Nat) : UInt32 :=
  (x <<< UInt32.ofNat n) ||| (x >>> UInt32.ofNat (32 - n))

/-- The function and the constant of round `i`, at three words. -/
def mix (i : Nat) (b c d : UInt32) : UInt32 :=
  if i < 20 then ((b &&& c) ^^^ (~~~b &&& d)) + 0x5a827999
  else if i < 40 then (b ^^^ c ^^^ d) + 0x6ed9eba1
  else if i < 60 then ((b &&& c) ^^^ (b &&& d) ^^^ (c &&& d)) + 0x8f1bbcdc
  else (b ^^^ c ^^^ d) + 0xca62c1d6

/-- Round `i` with schedule word `w`. -/
def round (s : State) (i : Nat) (w : UInt32) : State :=
  ⟨rotateLeft s.a 5 + mix i s.b s.c s.d + s.e + w, s.a, rotateLeft s.b 30, s.c, s.d⟩

/-- The schedule word that follows the sixteen words of `window`. -/
def nextWord (window : List UInt32) : UInt32 :=
  let w (i : Nat) : UInt32 := window.getD i 0
  rotateLeft (w 13 ^^^ w 8 ^^^ w 2 ^^^ w 0) 1

/-- The given rounds in order; `window` starts with the word of the first of them. -/
def runRounds : List Nat → List UInt32 → State → State
  | [], _, s => s
  | i :: is, window, s =>
    runRounds is (window.drop 1 ++ [nextWord window]) (round s i (window.headD 0))

/-- Takes one block into the chaining words. -/
def compress (s : State) (block : Octets) : State :=
  let words := (Octets.chunks 4 block).map fun bs => UInt32.ofNat (Octets.toNat bs)
  let t := runRounds (List.range 80) words s
  ⟨s.a + t.a, s.b + t.b, s.c + t.c, s.d + t.d, s.e + t.e⟩

/-- The message, a single one bit, zeros, and the message's length in bits, in whole blocks. -/
def pad (message : Octets) : Octets :=
  message ++ 0x80 :: List.replicate ((64 - (message.length + 9) % 64) % 64) 0 ++
    Octets.ofNat 8 (8 * message.length)

/-- The octets of a word. -/
def word (x : UInt32) : Octets := Octets.ofNat 4 x.toNat

/-- The SHA-1 hash. -/
def sha1 (message : Octets) : Octets :=
  let s := (Octets.chunks 64 (pad message)).foldl compress
    ⟨0x67452301, 0xefcdab89, 0x98badcfe, 0x10325476, 0xc3d2e1f0⟩
  word s.a ++ word s.b ++ word s.c ++ word s.d ++ word s.e

@[simp] theorem length_sha1 (message : Octets) : (sha1 message).length = 20 := by
  simp [sha1, word]

end MetadataTrust.Sha1
