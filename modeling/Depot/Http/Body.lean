import Depot.Codec.Hex
import Depot.Digest.Sha256
import Depot.Text.Cut

/-!
# Request bodies

A body arrives in chunks, and its transport can fail at any point.  A body can
be checked against a digest that the sender declared: the digest is known only
when the last chunk has come, so a body with another digest fails at its end.
-/

namespace Depot.Http

set_option autoImplicit false

/-- Why a body stopped coming. -/
inductive BodyFault where
  /-- The transport failed. -/
  | transport (message : String)
  /-- The body does not have the digest that was declared for it. -/
  | digestMismatch
  deriving DecidableEq, Repr

/-- The wording of a fault. -/
def BodyFault.message : BodyFault → String
  | .transport message => message
  | .digestMismatch => "x-amz-content-sha256 does not match the request body"

/-- One step of a body. -/
inductive Chunk where
  | data (bytes : ByteArray)
  | failure (fault : BodyFault)

/-- A body, chunk by chunk; nothing after a failure is read. -/
abbrev Body := List Chunk

namespace Body

def ofBytes (bytes : ByteArray) : Body := [.data bytes]

/-- Reads a body onto what was read before, up to its end or its first failure. -/
def readOnto (read : ByteArray) : Body → Except BodyFault ByteArray
  | [] => .ok read
  | .data bytes :: rest => readOnto (read ++ bytes) rest
  | .failure fault :: _ => .error fault

/-- The whole of a body, or the fault that stopped it. -/
def contents (body : Body) : Except BodyFault ByteArray := readOnto ByteArray.empty body

/-- What a body of limited size is found to be. -/
inductive Limited where
  | within (bytes : ByteArray)
  | tooLarge
  | failed (fault : BodyFault)

/-- Reads a body onto what was read before, but no more than `limit` bytes in all. -/
def readWithin (limit : Nat) (read : ByteArray) : Body → Limited
  | [] => .within read
  | .data bytes :: rest =>
      if read.size + bytes.size ≤ limit then readWithin limit (read ++ bytes) rest else .tooLarge
  | .failure fault :: _ => .failed fault

/-- The whole of a body of at most `limit` bytes. -/
def contentsWithin (limit : Nat) (body : Body) : Limited := readWithin limit ByteArray.empty body

/-- The body followed by a failure, unless it ends in one or has the SHA-256 digest `expected`,
in hexadecimal of either case. -/
def verified (expected : String) (body : Body) : Body :=
  match body.contents with
  | .error _ => body
  | .ok bytes =>
      if Hex.encode (Digest.Sha256.digest bytes) = Text.lower expected then body
      else body ++ [.failure .digestMismatch]

end Body

end Depot.Http
