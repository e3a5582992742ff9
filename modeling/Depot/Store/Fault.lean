import Depot.Http.Body
import Depot.Name.Identifier

/-!
# Faults

Why an operation of the store fails, the wording of each fault, and the five
kinds that the protocols tell apart.
-/

namespace Depot

set_option autoImplicit false

open Depot.Http

/-- The kinds of faults. -/
inductive FaultKind where
  | notFound
  | conflict
  | authentication
  | malformed
  | storage
  deriving DecidableEq, Repr

/-- The status with which the native protocol reports a kind. -/
def FaultKind.status : FaultKind → Nat
  | .notFound => 404
  | .conflict => 409
  | .authentication => 401
  | .malformed => 400
  | .storage => 500

/-- Why an operation of the store fails. -/
inductive StoreFault where
  | notFound (identifier : String)
  | conflict (identifier : String)
  | invalidIdentifier (identifier reason : String)
  | noSuchUpload (upload : String)
  | invalidPart (message : String)
  | invalidPartOrder
  /-- The bytes do not have the recorded digest. -/
  | corrupted (identifier expected actual : String)
  /-- The body that was to be written failed. -/
  | body (fault : BodyFault)
  /-- The blob of a row is not there. -/
  | missingBlob
  /-- The rows cannot be read or changed. -/
  | database
  deriving DecidableEq, Repr

namespace StoreFault

def ofIdentifier (identifier : String) (fault : Name.IdentifierFault) : StoreFault :=
  .invalidIdentifier identifier fault.reason

/-- The kind of a fault.  A body with another digest than declared is the sender's doing, any other
failing body is not. -/
def kind : StoreFault → FaultKind
  | .notFound _ => .notFound
  | .noSuchUpload _ => .notFound
  | .conflict _ => .conflict
  | .invalidIdentifier _ _ => .malformed
  | .invalidPart _ => .malformed
  | .invalidPartOrder => .malformed
  | .body .digestMismatch => .malformed
  | .body (.transport _) => .storage
  | .corrupted _ _ _ => .storage
  | .missingBlob => .storage
  | .database => .storage

/-- The wording of a fault. -/
def message : StoreFault → String
  | .notFound identifier => "object `" ++ identifier ++ "` not found"
  | .conflict identifier => "object `" ++ identifier ++ "` already exists"
  | .invalidIdentifier identifier reason =>
      "invalid identifier `" ++ identifier ++ "`: " ++ reason
  | .noSuchUpload upload => "multipart upload `" ++ upload ++ "` not found"
  | .invalidPart message => "invalid part: " ++ message
  | .invalidPartOrder => "parts must be listed in ascending order"
  | .corrupted identifier expected actual =>
      "content of `" ++ identifier ++ "` does not match its fingerprint " ++ expected ++
        " (found " ++ actual ++ ")"
  | .body fault => fault.message
  | .missingBlob => "No such file or directory (os error 2)"
  | .database => "database error"

end StoreFault

end Depot
