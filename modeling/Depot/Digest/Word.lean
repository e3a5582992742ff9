/-!
# Words of thirty-two bits

What the digests share: rotation, reading words from a byte string in either
byte order, writing them back, and the padding of a message to whole blocks of
sixty-four bytes.
-/

namespace Depot.Digest

set_option autoImplicit false

/-- Rotates a word to the left by `n` bits, for `0 < n < 32`. -/
@[inline] def rotateLeft (x n : UInt32) : UInt32 := (x <<< n) ||| (x >>> (32 - n))

/-- Rotates a word to the right by `n` bits, for `0 < n < 32`. -/
@[inline] def rotateRight (x n : UInt32) : UInt32 := (x >>> n) ||| (x <<< (32 - n))

/-- The byte at a position, zero past the end. -/
@[inline] def byteAt (bytes : ByteArray) (i : Nat) : UInt8 :=
  if h : i < bytes.size then bytes[i] else 0

/-- The word at a position, most significant byte first. -/
def bigWordAt (bytes : ByteArray) (i : Nat) : UInt32 :=
  ((byteAt bytes i).toUInt32 <<< 24) ||| ((byteAt bytes (i + 1)).toUInt32 <<< 16) |||
    ((byteAt bytes (i + 2)).toUInt32 <<< 8) ||| (byteAt bytes (i + 3)).toUInt32

/-- The word at a position, least significant byte first. -/
def littleWordAt (bytes : ByteArray) (i : Nat) : UInt32 :=
  ((byteAt bytes (i + 3)).toUInt32 <<< 24) ||| ((byteAt bytes (i + 2)).toUInt32 <<< 16) |||
    ((byteAt bytes (i + 1)).toUInt32 <<< 8) ||| (byteAt bytes i).toUInt32

def bigBytes (w : UInt32) : List UInt8 :=
  [(w >>> 24).toUInt8, (w >>> 16).toUInt8, (w >>> 8).toUInt8, w.toUInt8]

def littleBytes (w : UInt32) : List UInt8 :=
  [w.toUInt8, (w >>> 8).toUInt8, (w >>> 16).toUInt8, (w >>> 24).toUInt8]

@[simp] theorem length_bigBytes (w : UInt32) : (bigBytes w).length = 4 := rfl

@[simp] theorem length_littleBytes (w : UInt32) : (littleBytes w).length = 4 := rfl

/-- The number of bits of a message in eight bytes, most significant first. -/
def bigBitCount (size : Nat) : List UInt8 :=
  let bits := (8 * size).toUInt64
  bigBytes (bits >>> 32).toUInt32 ++ bigBytes bits.toUInt32

/-- The number of bits of a message in eight bytes, least significant first. -/
def littleBitCount (size : Nat) : List UInt8 :=
  let bits := (8 * size).toUInt64
  littleBytes bits.toUInt32 ++ littleBytes (bits >>> 32).toUInt32

/-- A message followed by a one bit, zeros, and its length, in whole blocks of sixty-four bytes. -/
def padWith (bitCount : Nat → List UInt8) (message : ByteArray) : ByteArray :=
  let zeros := (119 - message.size % 64) % 64
  message ++ ⟨(0x80 :: List.replicate zeros 0 ++ bitCount message.size).toArray⟩

end Depot.Digest
