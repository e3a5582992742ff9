import Depot.Codec.Percent
import Depot.Text.Cut

/-!
# The source of a copy

A header names the object to copy as a bucket and a key with a slash between
them, percent-encoded, with any number of slashes before and with or without a
question mark and a version after it.
-/

namespace Depot.Server.S3

set_option autoImplicit false

open Depot.Text

/-- The bucket and the key that a copy names. -/
def copySource? (text : String) : Option (String × String) := do
  let path := (cutAt '?' text.toList).elim text.toList Prod.fst
  let decoded ← Percent.decodedText? (String.ofList path)
  let (bucket, key) ← cutAt '/' (trimStart (· == '/') decoded.toList)
  if bucket.isEmpty || key.isEmpty then none
  else some (String.ofList bucket, String.ofList key)

end Depot.Server.S3
