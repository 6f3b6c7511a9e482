import QueryPlan.Bytes.Words

set_option autoImplicit false

/-! # SHA-256

The digest of a byte string: the padded message is cut into blocks of 64 bytes, and each block is
mixed into a state of eight words. -/

namespace QueryPlan.Bytes.Sha256

/-! ## Words -/

/-- The bits of a word turned right by `n` places. -/
def rotateRight (x : UInt32) (n : UInt32) : UInt32 :=
  (x >>> n) ||| (x <<< (32 - n))

/-- The first 32 bits of the fractional parts of the cube roots of the first 64 primes. -/
def roundConstants : List UInt32 :=
  [0x428a2f98, 0x71374491, 0xb5c0fbcf, 0xe9b5dba5, 0x3956c25b, 0x59f111f1, 0x923f82a4, 0xab1c5ed5,
   0xd807aa98, 0x12835b01, 0x243185be, 0x550c7dc3, 0x72be5d74, 0x80deb1fe, 0x9bdc06a7, 0xc19bf174,
   0xe49b69c1, 0xefbe4786, 0x0fc19dc6, 0x240ca1cc, 0x2de92c6f, 0x4a7484aa, 0x5cb0a9dc, 0x76f988da,
   0x983e5152, 0xa831c66d, 0xb00327c8, 0xbf597fc7, 0xc6e00bf3, 0xd5a79147, 0x06ca6351, 0x14292967,
   0x27b70a85, 0x2e1b2138, 0x4d2c6dfc, 0x53380d13, 0x650a7354, 0x766a0abb, 0x81c2c92e, 0x92722c85,
   0xa2bfe8a1, 0xa81a664b, 0xc24b8b70, 0xc76c51a3, 0xd192e819, 0xd6990624, 0xf40e3585, 0x106aa070,
   0x19a4c116, 0x1e376c08, 0x2748774c, 0x34b0bcb5, 0x391c0cb3, 0x4ed8aa4a, 0x5b9cca4f, 0x682e6ff3,
   0x748f82ee, 0x78a5636f, 0x84c87814, 0x8cc70208, 0x90befffa, 0xa4506ceb, 0xbef9a3f7, 0xc67178f2]

/-- The words of a byte string, four bytes each, the most significant first. -/
def words : List UInt8 → List UInt32
  | a :: b :: c :: d :: rest =>
    (a.toUInt32 <<< 24 ||| b.toUInt32 <<< 16 ||| c.toUInt32 <<< 8 ||| d.toUInt32) :: words rest
  | _ => []

/-! ## The message -/

/-- The message with a one bit, zeros and its length in bits, a multiple of 64 bytes. -/
def pad (message : List UInt8) : List UInt8 :=
  let zeros := (119 - message.length % 64) % 64
  message ++ 0x80 :: List.replicate zeros 0 ++ bigEndian 8 (message.length * 8)

/-- The first `count` blocks of 64 bytes. -/
def blocks : Nat → List UInt8 → List (List UInt8)
  | 0, _ => []
  | count + 1, bytes => bytes.take 64 :: blocks count (bytes.drop 64)

/-! ## Mixing -/

/-- The next `count` words of a message schedule. `window` holds the sixteen words before the next
    one, and each step takes the first of them out. -/
def schedule : Nat → List UInt32 → List UInt32
  | 0, _ => []
  | count + 1, window =>
    let early := window.getD 1 0
    let late := window.getD 14 0
    let mixedEarly := rotateRight early 7 ^^^ rotateRight early 18 ^^^ early >>> 3
    let mixedLate := rotateRight late 17 ^^^ rotateRight late 19 ^^^ late >>> 10
    let next := window.getD 0 0 + mixedEarly + window.getD 9 0 + mixedLate
    window.getD 0 0 :: schedule count (window.drop 1 ++ [next])

/-- The eight words that are carried from block to block. -/
structure State where
  a : UInt32
  b : UInt32
  c : UInt32
  d : UInt32
  e : UInt32
  f : UInt32
  g : UInt32
  h : UInt32

/-- The first 32 bits of the fractional parts of the square roots of the first eight primes. -/
def initial : State :=
  ⟨0x6a09e667, 0xbb67ae85, 0x3c6ef372, 0xa54ff53a, 0x510e527f, 0x9b05688c, 0x1f83d9ab, 0x5be0cd19⟩

/-- One round: a round constant and a word of the schedule enter the state. -/
def State.round (s : State) (input : UInt32 × UInt32) : State :=
  let high := rotateRight s.e 6 ^^^ rotateRight s.e 11 ^^^ rotateRight s.e 25
  let choice := (s.e &&& s.f) ^^^ (~~~s.e &&& s.g)
  let first := s.h + high + choice + input.1 + input.2
  let low := rotateRight s.a 2 ^^^ rotateRight s.a 13 ^^^ rotateRight s.a 22
  let majority := (s.a &&& s.b) ^^^ (s.a &&& s.c) ^^^ (s.b &&& s.c)
  ⟨first + (low + majority), s.a, s.b, s.c, s.d + first, s.e, s.f, s.g⟩

/-- The words of two states added one by one. -/
def State.add (s t : State) : State :=
  ⟨s.a + t.a, s.b + t.b, s.c + t.c, s.d + t.d, s.e + t.e, s.f + t.f, s.g + t.g, s.h + t.h⟩

/-- Mixes a block into a state. -/
def State.absorb (s : State) (block : List UInt8) : State :=
  s.add ((roundConstants.zip (schedule 64 (words block))).foldl State.round s)

/-- The 32 bytes of a state. -/
def State.bytes (s : State) : List UInt8 :=
  [s.a, s.b, s.c, s.d, s.e, s.f, s.g, s.h].flatMap fun word => bigEndian 4 word.toNat

theorem State.length_bytes (s : State) : s.bytes.length = 32 := by
  simp [State.bytes]

/-- The digest of a byte string. -/
def digest (message : List UInt8) : List UInt8 :=
  let padded := pad message
  ((blocks (padded.length / 64) padded).foldl State.absorb initial).bytes

/-- A digest always has 32 bytes. -/
theorem length_digest (message : List UInt8) : (digest message).length = 32 :=
  State.length_bytes _

end QueryPlan.Bytes.Sha256
