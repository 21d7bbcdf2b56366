/-
# SHA-256

The hash of the standard: the message is padded to whole blocks of 64 bytes, each block is
expanded into a schedule of 64 words, and 64 rounds mix the schedule into a state of eight
words.
-/

namespace Curation.Sha256

/-! ## 1. Words -/

/-- A word turned right by some bits. -/
def rotate (x : UInt32) (n : UInt32) : UInt32 := (x >>> n) ||| (x <<< (32 - n))

/-- The first word mix of the schedule. -/
def smallSigma0 (x : UInt32) : UInt32 := rotate x 7 ^^^ rotate x 18 ^^^ (x >>> 3)

/-- The second word mix of the schedule. -/
def smallSigma1 (x : UInt32) : UInt32 := rotate x 17 ^^^ rotate x 19 ^^^ (x >>> 10)

/-- The first word mix of a round. -/
def bigSigma0 (x : UInt32) : UInt32 := rotate x 2 ^^^ rotate x 13 ^^^ rotate x 22

/-- The second word mix of a round. -/
def bigSigma1 (x : UInt32) : UInt32 := rotate x 6 ^^^ rotate x 11 ^^^ rotate x 25

/-- The bits of `y` where `x` is set, those of `z` elsewhere. -/
def choose (x y z : UInt32) : UInt32 := (x &&& y) ^^^ ((x ^^^ 0xffffffff) &&& z)

/-- The bits that at least two words agree on. -/
def majority (x y z : UInt32) : UInt32 := (x &&& y) ^^^ (x &&& z) ^^^ (y &&& z)

/-- The round constants: the first bits of the fractional parts of the cube roots of the
first 64 primes. -/
def constants : Array UInt32 := #[
  0x428a2f98, 0x71374491, 0xb5c0fbcf, 0xe9b5dba5, 0x3956c25b, 0x59f111f1, 0x923f82a4, 0xab1c5ed5,
  0xd807aa98, 0x12835b01, 0x243185be, 0x550c7dc3, 0x72be5d74, 0x80deb1fe, 0x9bdc06a7, 0xc19bf174,
  0xe49b69c1, 0xefbe4786, 0x0fc19dc6, 0x240ca1cc, 0x2de92c6f, 0x4a7484aa, 0x5cb0a9dc, 0x76f988da,
  0x983e5152, 0xa831c66d, 0xb00327c8, 0xbf597fc7, 0xc6e00bf3, 0xd5a79147, 0x06ca6351, 0x14292967,
  0x27b70a85, 0x2e1b2138, 0x4d2c6dfc, 0x53380d13, 0x650a7354, 0x766a0abb, 0x81c2c92e, 0x92722c85,
  0xa2bfe8a1, 0xa81a664b, 0xc24b8b70, 0xc76c51a3, 0xd192e819, 0xd6990624, 0xf40e3585, 0x106aa070,
  0x19a4c116, 0x1e376c08, 0x2748774c, 0x34b0bcb5, 0x391c0cb3, 0x4ed8aa4a, 0x5b9cca4f, 0x682e6ff3,
  0x748f82ee, 0x78a5636f, 0x84c87814, 0x8cc70208, 0x90befffa, 0xa4506ceb, 0xbef9a3f7, 0xc67178f2]

/-! ## 2. The state -/

/-- The eight words of the state. -/
structure State where
  (a b c d e f g h : UInt32)
  deriving DecidableEq

/-- The state before the first block: the first bits of the fractional parts of the square
roots of the first eight primes. -/
def initial : State :=
  ⟨0x6a09e667, 0xbb67ae85, 0x3c6ef372, 0xa54ff53a, 0x510e527f, 0x9b05688c, 0x1f83d9ab, 0x5be0cd19⟩

/-- One round, with its constant and its word of the schedule added together. -/
def State.round (s : State) (added : UInt32) : State :=
  let t1 := s.h + bigSigma1 s.e + choose s.e s.f s.g + added
  let t2 := bigSigma0 s.a + majority s.a s.b s.c
  ⟨t1 + t2, s.a, s.b, s.c, s.d + t1, s.e, s.f, s.g⟩

/-- The sum of two states, word by word. -/
def State.add (s t : State) : State :=
  ⟨s.a + t.a, s.b + t.b, s.c + t.c, s.d + t.d, s.e + t.e, s.f + t.f, s.g + t.g, s.h + t.h⟩

/-- The words of a state in order. -/
def State.words (s : State) : List UInt32 := [s.a, s.b, s.c, s.d, s.e, s.f, s.g, s.h]

/-! ## 3. Blocks -/

/-- Four bytes read as a word, the first one highest. -/
def wordAt (bytes : ByteArray) (i : Nat) : UInt32 :=
  ((bytes[i]?.getD 0).toUInt32 <<< 24) ||| ((bytes[i + 1]?.getD 0).toUInt32 <<< 16) |||
    ((bytes[i + 2]?.getD 0).toUInt32 <<< 8) ||| (bytes[i + 3]?.getD 0).toUInt32

/-- The schedule of a block: its sixteen words, then 48 mixed from earlier ones. -/
def schedule (bytes : ByteArray) (start : Nat) : Array UInt32 :=
  (List.range 64).foldl
    (fun w i =>
      w.push (if i < 16 then wordAt bytes (start + 4 * i)
        else w[i - 16]?.getD 0 + smallSigma0 (w[i - 15]?.getD 0) + w[i - 7]?.getD 0 +
          smallSigma1 (w[i - 2]?.getD 0)))
    (Array.emptyWithCapacity 64)

/-- The state after one more block. -/
def compress (bytes : ByteArray) (s : State) (start : Nat) : State :=
  let w := schedule bytes start
  s.add ((List.range 64).foldl (fun t i => t.round (constants[i]?.getD 0 + w[i]?.getD 0)) s)

/-- The bytes of a word, the highest first. -/
def wordBytes (x : UInt32) : List UInt8 :=
  [(x >>> 24).toUInt8, (x >>> 16).toUInt8, (x >>> 8).toUInt8, x.toUInt8]

/-- **Padding.**  A single set bit, zeros up to eight bytes short of a block, and the length
of the message in bits. -/
def pad (message : ByteArray) : ByteArray :=
  let size := message.size
  let zeros := (119 - size % 64) % 64
  let bits := 8 * size
  let marked := message.push 0x80
  let filled := (List.range zeros).foldl (fun bytes _ => bytes.push 0) marked
  (List.range 8).foldl
    (fun bytes i => bytes.push (UInt8.ofNat (bits >>> (8 * (7 - i))))) filled

/-- The hash of a message, as 32 bytes. -/
def hash (message : ByteArray) : List UInt8 :=
  let bytes := pad message
  let final := (List.range (bytes.size / 64)).foldl
    (fun s i => compress bytes s (64 * i)) initial
  final.words.flatMap wordBytes

end Curation.Sha256
