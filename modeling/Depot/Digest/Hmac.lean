import Depot.Digest.Sha256

/-!
# Keyed digests

The message authentication code built from SHA-256: the key, brought to one
block, is mixed into the message twice.
-/

namespace Depot.Digest.Hmac

set_option autoImplicit false

/-- A key brought to sixty-four bytes: a longer one is digested first, a shorter one is filled up
with zeros. -/
def blockKey (key : ByteArray) : List UInt8 :=
  let short := if key.size > 64 then Sha256.digest key else key
  short.data.toList ++ List.replicate (64 - short.size) 0

/-- The code of `message` under `key`. -/
def sha256 (key message : ByteArray) : ByteArray :=
  let block := blockKey key
  let inner : ByteArray := ⟨(block.map (· ^^^ 0x36)).toArray⟩
  let outer : ByteArray := ⟨(block.map (· ^^^ 0x5c)).toArray⟩
  Sha256.digest (outer ++ Sha256.digest (inner ++ message))

/-- A code has thirty-two bytes. -/
theorem size_sha256 (key message : ByteArray) : (sha256 key message).size = 32 := rfl

end Depot.Digest.Hmac
