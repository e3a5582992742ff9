import Depot.Digest.Word

/-!
# MD5

The digest that names the content of an object: four passes of sixteen steps
over each block of sixty-four bytes.  `size_digest` says that a digest has
sixteen bytes.
-/

namespace Depot.Digest.Md5

set_option autoImplicit false

/-- The four words of the running digest. -/
structure State where
  a : UInt32
  b : UInt32
  c : UInt32
  d : UInt32

/-- The state before the first block. -/
def State.start : State := ⟨0x67452301, 0xefcdab89, 0x98badcfe, 0x10325476⟩

/-- The constant of each step: whole parts of two to the thirty-second times a sine. -/
def stepConstants : List UInt32 :=
   [0xd76aa478, 0xe8c7b756, 0x242070db, 0xc1bdceee, 0xf57c0faf, 0x4787c62a,
    0xa8304613, 0xfd469501, 0x698098d8, 0x8b44f7af, 0xffff5bb1, 0x895cd7be,
    0x6b901122, 0xfd987193, 0xa679438e, 0x49b40821, 0xf61e2562, 0xc040b340,
    0x265e5a51, 0xe9b6c7aa, 0xd62f105d, 0x02441453, 0xd8a1e681, 0xe7d3fbc8,
    0x21e1cde6, 0xc33707d6, 0xf4d50d87, 0x455a14ed, 0xa9e3e905, 0xfcefa3f8,
    0x676f02d9, 0x8d2a4c8a, 0xfffa3942, 0x8771f681, 0x6d9d6122, 0xfde5380c,
    0xa4beea44, 0x4bdecfa9, 0xf6bb4b60, 0xbebfbc70, 0x289b7ec6, 0xeaa127fa,
    0xd4ef3085, 0x04881d05, 0xd9d4d039, 0xe6db99e5, 0x1fa27cf8, 0xc4ac5665,
    0xf4292244, 0x432aff97, 0xab9423a7, 0xfc93a039, 0x655b59c3, 0x8f0ccc92,
    0xffeff47d, 0x85845dd1, 0x6fa87e4f, 0xfe2ce6e0, 0xa3014314, 0x4e0811a1,
    0xf7537e82, 0xbd3af235, 0x2ad7d2bb, 0xeb86d391]

/-- The rotation of step `i`. -/
def rotation (i : Nat) : UInt32 :=
  match i / 16, i % 4 with
  | 0, 0 => 7 | 0, 1 => 12 | 0, 2 => 17 | 0, _ => 22
  | 1, 0 => 5 | 1, 1 => 9 | 1, 2 => 14 | 1, _ => 20
  | 2, 0 => 4 | 2, 1 => 11 | 2, 2 => 16 | 2, _ => 23
  | _, 0 => 6 | _, 1 => 10 | _, 2 => 15 | _, _ => 21

/-- The position in the block of the word that step `i` takes. -/
def wordIndex (i : Nat) : Nat :=
  match i / 16 with
  | 0 => i
  | 1 => (5 * i + 1) % 16
  | 2 => (3 * i + 5) % 16
  | _ => (7 * i) % 16

/-- How step `i` mixes three words of the state. -/
def mix (i : Nat) (b c d : UInt32) : UInt32 :=
  match i / 16 with
  | 0 => (b &&& c) ||| ((b ^^^ 0xffffffff) &&& d)
  | 1 => (d &&& b) ||| ((d ^^^ 0xffffffff) &&& c)
  | 2 => b ^^^ c ^^^ d
  | _ => c ^^^ (b ||| (d ^^^ 0xffffffff))

/-- Step `i` with its constant on the block at `offset`. -/
def State.step (s : State) (bytes : ByteArray) (offset i : Nat) (k : UInt32) : State :=
  let f := mix i s.b s.c s.d + s.a + k + littleWordAt bytes (offset + 4 * wordIndex i)
  ⟨s.d, s.b + rotateLeft f (rotation i), s.b, s.c⟩

/-- The steps of one block from step `i` on. -/
def State.steps (s : State) (bytes : ByteArray) (offset : Nat) : List UInt32 → Nat → State
  | [], _ => s
  | k :: more, i => (s.step bytes offset i k).steps bytes offset more (i + 1)

def State.add (s t : State) : State := ⟨s.a + t.a, s.b + t.b, s.c + t.c, s.d + t.d⟩

/-- The state after `count` blocks from `offset` on. -/
def State.blocks (s : State) (bytes : ByteArray) (offset : Nat) : Nat → State
  | 0 => s
  | count + 1 =>
      (s.add (s.steps bytes offset stepConstants 0)).blocks bytes (offset + 64) count

def State.toBytes (s : State) : List UInt8 :=
  littleBytes s.a ++ littleBytes s.b ++ littleBytes s.c ++ littleBytes s.d

/-- The MD5 digest of a byte string. -/
def digest (message : ByteArray) : ByteArray :=
  let padded := padWith littleBitCount message
  ⟨(State.start.blocks padded 0 (padded.size / 64)).toBytes.toArray⟩

/-- A digest has sixteen bytes. -/
theorem size_digest (message : ByteArray) : (digest message).size = 16 := rfl

example :
    digest "message digest".toUTF8 = ⟨#[
      0xf9, 0x6b, 0x69, 0x7d, 0x7c, 0xb7, 0x93, 0x8d,
      0x52, 0x5a, 0x2f, 0x31, 0xaa, 0xf1, 0x61, 0xd0]⟩ := by
  decide +kernel

end Depot.Digest.Md5
