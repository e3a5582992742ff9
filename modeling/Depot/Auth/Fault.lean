/-!
# Authentication faults

Why a request is not taken for that of a user.  Clients never see which of them
it was.
-/

namespace Depot

set_option autoImplicit false

/-- Why a request could not be authenticated. -/
inductive AuthFault where
  | missingHeader (name : String)
  | malformed (detail : String)
  | unknownAccessKey
  | userMismatch
  | scopeMismatch (detail : String)
  | requestExpired
  | signatureMismatch
  deriving DecidableEq, Repr

/-- The wording of a fault. -/
def AuthFault.message : AuthFault → String
  | .missingHeader name => "missing `" ++ name ++ "` header"
  | .malformed detail => "malformed signature: " ++ detail
  | .unknownAccessKey => "unknown access key"
  | .userMismatch => "access key does not belong to the given user"
  | .scopeMismatch detail => "credential scope mismatch: " ++ detail
  | .requestExpired => "request time is outside the allowed clock skew"
  | .signatureMismatch => "signature does not match"

end Depot
