import Depot.Text.Blank

/-!
# Identifiers

The store knows an object by one text: the owner, a separator that no owner and
no key contains, the bucket, a slash, and the key.  A bucket is nothing but the
common beginning of its identifiers.
-/

namespace Depot.Name

set_option autoImplicit false

open Depot.Text

/-- The character between the owner and the rest of an identifier. -/
def ownerMark : Char := '\x1f'

def ownerScope (owner : String) : String := owner ++ String.singleton ownerMark

def bucketScope (owner bucket : String) : String := ownerScope owner ++ bucket ++ "/"

def identifier (owner bucket key : String) : String := bucketScope owner bucket ++ key

/-- The owner, when an identifier has one, and what follows it. -/
def splitOwner (identifier : String) : Option String × String :=
  match cutString ownerMark identifier with
  | some (owner, path) => (some owner, path)
  | none => (none, identifier)

/-- The key within an identifier: what follows owner and bucket, and the whole of an identifier
without owner. -/
def keyOf (identifier : String) : String :=
  match splitOwner identifier with
  | (none, whole) => whole
  | (some _, path) =>
      match cutString '/' path with
      | some (_, key) => key
      | none => path

/-- Why a text cannot be an identifier. -/
inductive IdentifierFault where
  | noOwner
  | empty
  | tooLong
  | control
  deriving DecidableEq, Repr

/-- The wording of a fault in an identifier. -/
def IdentifierFault.reason : IdentifierFault → String
  | .noOwner => "owner must not be empty"
  | .empty => "must not be empty"
  | .tooLong => "longer than 1024 bytes"
  | .control => "contains control characters"

/-- The greatest length in bytes of an identifier after its owner. -/
def maxIdentifierLength : Nat := 1024

/-- Checks that a text can be an identifier.  The length counts without the owner. -/
def checkIdentifier (identifier : String) : Except IdentifierFault Unit :=
  let (owner?, path) := splitOwner identifier
  if owner?.any (·.isEmpty) then .error .noOwner
  else if path.isEmpty then .error .empty
  else if maxIdentifierLength < path.utf8ByteSize then .error .tooLong
  else if owner?.any (·.toList.any isControl) || path.toList.any isControl then .error .control
  else .ok ()

end Depot.Name
