import Depot.Store.State

/-!
# Reading objects

What is known of an object, and its content: checked against the digest that
its row records, or as it stands.
-/

namespace Depot.Store

set_option autoImplicit false

/-- What is known of an object. -/
def head (identifier : String) : Action Object := do
  requireIdentifier identifier
  fetch identifier

/-- An object with its content as it stands. -/
def peek (identifier : String) : Action Content := do
  requireIdentifier identifier
  let object ← fetch identifier
  let bytes ← readBlob object.blob
  return ⟨object, bytes⟩

/-- An object with its content, which must have the recorded digest. -/
def read (identifier : String) : Action Content := do
  let content ← peek identifier
  let actual := etagOf content.bytes
  if actual = content.object.etag then return content
  else throw (.corrupted identifier content.object.etag actual)

end Depot.Store
