import Depot.Auth.Signature
import Depot.Http.Message
import Depot.Server.Fault

/-!
# Admission

Who a request is from.  The first segment of its path says which protocol the
request is addressed to: probes pass without credentials, everything else must
be authenticated, by a signature or, in the native protocol, by naming a user
and one of their access keys.

A request that declares the digest of its body is let in before the body is
read; the body then fails at its end when it has another digest.
-/

namespace Depot.Server

set_option autoImplicit false

open Depot.Auth
open Depot.Http
open Depot.Text
open Depot.Time

/-- The protocols that requests are addressed to. -/
inductive Protocol where
  | native
  | s3
  | probe
  deriving DecidableEq, Repr

def nativeVerbs : List String :=
  ["put", "put_binary", "get", "update", "append", "update_key", "delete"]

def openPaths : List String := ["healthz", "readyz"]

/-- The protocol of a path. -/
def Protocol.ofPath (path : String) : Protocol :=
  let isSlash := fun c => c == '/'
  let first := String.ofList ((trimStart isSlash path.toList).takeWhile (· != '/'))
  if nativeVerbs.contains first then .native
  else if openPaths.contains first && String.ofList (trim isSlash path.toList) == first then .probe
  else .s3

/-- Why a request is not let in. -/
inductive Rejection where
  | auth (fault : AuthFault)
  | tooLarge
  /-- The body is signed chunk by chunk. -/
  | chunkSignatures
  deriving DecidableEq, Repr

def chunkSignaturesMessage : String := "streaming payload signatures are not supported"

/-- The answer to a request that is not let in. -/
def Rejection.response (r : Rejection) (protocol : Protocol) (path requestId : String) : Response :=
  match protocol, r with
  | .native, .auth _ => NativeFault.unauthorized.response
  | .native, .tooLarge => (NativeFault.mk 413 "request body too large").response
  | .native, .chunkSignatures => (NativeFault.badRequest chunkSignaturesMessage).response
  | _, .auth _ => (S3Fault.accessDenied path).response requestId
  | _, .tooLarge => (S3Fault.entityTooLarge path).response requestId
  | _, .chunkSignatures =>
      (S3Fault.invalidRequest chunkSignaturesMessage path).response requestId

/-- The digest that a signature covers, and the body that is checked against it. -/
def signedBody (headers : Headers) (maxBuffered : Nat) (body : Body) :
    Except Rejection (String × Body) :=
  match headers.text? digestHeader with
  | some declared =>
      if beginsWith "STREAMING-" declared then .error .chunkSignatures
      else if declared = unsignedPayload then .ok (declared, body)
      else if Hex.isDigest declared then .ok (declared, body.verified declared)
      else
        .error
          (.auth (.malformed ("unsupported " ++ digestHeader ++ " `" ++ declared ++ "`")))
  | none =>
      match body.contentsWithin maxBuffered with
      | .within bytes => .ok (payloadHash bytes, Body.ofBytes bytes)
      | .tooLarge => .error .tooLarge
      | .failed _ => .error .tooLarge

/-- The user that a native request without signature names with their access key. -/
def namedUser (verifier : Verifier) (headers : Headers) : Except AuthFault User :=
  match headers.text? "user" with
  | none => .error (.missingHeader "user")
  | some userId =>
      match headers.text? "x-access-key" with
      | none => .error (.missingHeader "x-access-key")
      | some accessKey => verifier.verifyAccessKey userId accessKey

/-- The user that a request is from, and its body as it may be read. -/
def admission (verifier : Verifier) (maxBuffered : Nat) (now : Instant) (protocol : Protocol)
    (request : Request) : Except Rejection (User × Body) := do
  if request.headers.has "authorization" then
    let (payloadHash, body) ← signedBody request.headers maxBuffered request.body
    let signed : SignedRequest := ⟨request.method, request.target, request.headers, payloadHash⟩
    let user ← (verifier.verify signed now).mapError .auth
    return (user, body)
  else if protocol = .native then
    let user ← (namedUser verifier request.headers).mapError .auth
    return (user, request.body)
  else throw (.auth (.missingHeader "authorization"))

end Depot.Server
