import Depot.Digest.Word

/-!
# SHA-256

The digest of a byte string: the message is padded to whole blocks, each block
is spread over sixty-four words, and the words are stirred into a state of eight
words.  `size_digest` says that a digest has thirty-two bytes.
-/

namespace Depot.Digest.Sha256

set_option autoImplicit false

/-- The eight words of the running digest. -/
structure State where
  a : UInt32
  b : UInt32
  c : UInt32
  d : UInt32
  e : UInt32
  f : UInt32
  g : UInt32
  h : UInt32

/-- The state before the first block: square roots of the first eight primes. -/
def State.start : State :=
  ⟨0x6a09e667, 0xbb67ae85, 0x3c6ef372, 0xa54ff53a,
    0x510e527f, 0x9b05688c, 0x1f83d9ab, 0x5be0cd19⟩

/-- The constant of each round: cube roots of the first sixty-four primes. -/
def roundConstants : List UInt32 :=
   [0x428a2f98, 0x71374491, 0xb5c0fbcf, 0xe9b5dba5, 0x3956c25b, 0x59f111f1,
    0x923f82a4, 0xab1c5ed5, 0xd807aa98, 0x12835b01, 0x243185be, 0x550c7dc3,
    0x72be5d74, 0x80deb1fe, 0x9bdc06a7, 0xc19bf174, 0xe49b69c1, 0xefbe4786,
    0x0fc19dc6, 0x240ca1cc, 0x2de92c6f, 0x4a7484aa, 0x5cb0a9dc, 0x76f988da,
    0x983e5152, 0xa831c66d, 0xb00327c8, 0xbf597fc7, 0xc6e00bf3, 0xd5a79147,
    0x06ca6351, 0x14292967, 0x27b70a85, 0x2e1b2138, 0x4d2c6dfc, 0x53380d13,
    0x650a7354, 0x766a0abb, 0x81c2c92e, 0x92722c85, 0xa2bfe8a1, 0xa81a664b,
    0xc24b8b70, 0xc76c51a3, 0xd192e819, 0xd6990624, 0xf40e3585, 0x106aa070,
    0x19a4c116, 0x1e376c08, 0x2748774c, 0x34b0bcb5, 0x391c0cb3, 0x4ed8aa4a,
    0x5b9cca4f, 0x682e6ff3, 0x748f82ee, 0x78a5636f, 0x84c87814, 0x8cc70208,
    0x90befffa, 0xa4506ceb, 0xbef9a3f7, 0xc67178f2]

/-- One round with its constant and word. -/
def State.round (s : State) (k w : UInt32) : State :=
  let s1 := rotateRight s.e 6 ^^^ rotateRight s.e 11 ^^^ rotateRight s.e 25
  let choice := (s.e &&& s.f) ^^^ ((s.e ^^^ 0xffffffff) &&& s.g)
  let t1 := s.h + s1 + choice + k + w
  let s0 := rotateRight s.a 2 ^^^ rotateRight s.a 13 ^^^ rotateRight s.a 22
  let majority := (s.a &&& s.b) ^^^ (s.a &&& s.c) ^^^ (s.b &&& s.c)
  ⟨t1 + (s0 + majority), s.a, s.b, s.c, s.d + t1, s.e, s.f, s.g⟩

def State.add (s t : State) : State :=
  ⟨s.a + t.a, s.b + t.b, s.c + t.c, s.d + t.d, s.e + t.e, s.f + t.f, s.g + t.g, s.h + t.h⟩

/-- The word that follows in the spread of a block. -/
def nextWord (words : Array UInt32) : UInt32 :=
  let n := words.size
  let w15 := words.getD (n - 15) 0
  let w2 := words.getD (n - 2) 0
  let s0 := rotateRight w15 7 ^^^ rotateRight w15 18 ^^^ (w15 >>> 3)
  let s1 := rotateRight w2 17 ^^^ rotateRight w2 19 ^^^ (w2 >>> 10)
  words.getD (n - 16) 0 + s0 + words.getD (n - 7) 0 + s1

/-- The first sixteen words of a block are its bytes. -/
def blockWords (bytes : ByteArray) (offset : Nat) : Array UInt32 :=
  (Array.range 16).map fun i => bigWordAt bytes (offset + 4 * i)

/-- A block spread over sixty-four words. -/
def spread (bytes : ByteArray) (offset : Nat) : Array UInt32 :=
  (List.range 48).foldl (fun words _ => words.push (nextWord words)) (blockWords bytes offset)

/-- Stirs the rounds of one block into a state. -/
def State.rounds (s : State) : List UInt32 → Array UInt32 → Nat → State
  | [], _, _ => s
  | k :: more, words, i => (s.round k (words.getD i 0)).rounds more words (i + 1)

/-- The state after the block at `offset`. -/
def State.block (s : State) (bytes : ByteArray) (offset : Nat) : State :=
  s.add (s.rounds roundConstants (spread bytes offset) 0)

/-- The state after `count` blocks from `offset` on. -/
def State.blocks (s : State) (bytes : ByteArray) (offset : Nat) : Nat → State
  | 0 => s
  | count + 1 => (s.block bytes offset).blocks bytes (offset + 64) count

/-- The bytes of a state. -/
def State.toBytes (s : State) : List UInt8 :=
  bigBytes s.a ++ bigBytes s.b ++ bigBytes s.c ++ bigBytes s.d ++ bigBytes s.e ++
    bigBytes s.f ++ bigBytes s.g ++ bigBytes s.h

/-- The SHA-256 digest of a byte string. -/
def digest (message : ByteArray) : ByteArray :=
  let padded := padWith bigBitCount message
  ⟨(State.start.blocks padded 0 (padded.size / 64)).toBytes.toArray⟩

/-- A digest has thirty-two bytes. -/
theorem size_digest (message : ByteArray) : (digest message).size = 32 := rfl

example :
    digest "abc".toUTF8 = ⟨#[
      0xba, 0x78, 0x16, 0xbf, 0x8f, 0x01, 0xcf, 0xea,
      0x41, 0x41, 0x40, 0xde, 0x5d, 0xae, 0x22, 0x23,
      0xb0, 0x03, 0x61, 0xa3, 0x96, 0x17, 0x7a, 0x9c,
      0xb4, 0x10, 0xff, 0x61, 0xf2, 0x00, 0x15, 0xad]⟩ := by
  decide +kernel

end Depot.Digest.Sha256
