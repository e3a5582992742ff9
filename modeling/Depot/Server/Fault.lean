import Depot.Auth.Fault
import Depot.Codec.Json
import Depot.Http.Message
import Depot.Store.Fault
import Depot.Xml.Documents

/-!
# How faults are answered

The native protocol answers a fault with a JSON object, the S3 protocol with an
XML document that names a code, a message and the resource.  Faults of the
devices are answered without saying what happened.
-/

namespace Depot.Server

set_option autoImplicit false

open Depot.Http

/-! ## Native faults -/

/-- A fault as the native protocol answers it. -/
structure NativeFault where
  status : Nat
  message : String
  deriving DecidableEq, Repr

namespace NativeFault

/-- The response of a fault. -/
def response (f : NativeFault) : Response :=
  .json f.status
    (Json.objectText [("error", Json.quote f.message), ("status", Text.decimal f.status)])

def badRequest (message : String) : NativeFault := ⟨400, message⟩

/-- A request that is not taken for that of a user; it does not say why. -/
def unauthorized : NativeFault := ⟨401, "authentication failed"⟩

/-- The fault of the store. -/
def ofStore (fault : StoreFault) : NativeFault :=
  let message :=
    match fault with
    | .notFound identifier => "key `" ++ Name.keyOf identifier ++ "` not found"
    | .conflict identifier => "key `" ++ Name.keyOf identifier ++ "` already exists"
    | .invalidIdentifier _ reason => "invalid key: " ++ reason
    | fault => if fault.kind = .storage then "internal storage error" else fault.message
  ⟨fault.kind.status, message⟩

end NativeFault

/-! ## S3 faults -/

/-- A fault as the S3 protocol answers it. -/
structure S3Fault where
  status : Nat
  code : String
  message : String
  resource : String
  deriving DecidableEq, Repr

namespace S3Fault

/-- The response of a fault under the name of the request. -/
def response (f : S3Fault) (requestId : String) : Response :=
  .xml f.status (Xml.faultDocument f.code f.message f.resource requestId)

def text (f : S3Fault) : String := f.code ++ ": " ++ f.message

def accessDenied (resource : String) : S3Fault := ⟨403, "AccessDenied", "Access Denied", resource⟩

def noSuchKey (resource : String) : S3Fault :=
  ⟨404, "NoSuchKey", "The specified key does not exist.", resource⟩

def noSuchBucket (resource : String) : S3Fault :=
  ⟨404, "NoSuchBucket", "The specified bucket does not exist.", resource⟩

def invalidBucketName (reason resource : String) : S3Fault :=
  ⟨400, "InvalidBucketName", "The specified bucket is not valid: " ++ reason, resource⟩

def bucketNotEmpty (resource : String) : S3Fault :=
  ⟨409, "BucketNotEmpty", "The bucket you tried to delete is not empty.", resource⟩

def invalidRange (resource : String) : S3Fault :=
  ⟨416, "InvalidRange", "The requested range is not satisfiable.", resource⟩

def entityTooLarge (resource : String) : S3Fault :=
  ⟨413, "EntityTooLarge", "Your proposed upload exceeds the maximum allowed size.", resource⟩

/-- An argument has no meaning here. -/
def invalidArgument (message resource : String) : S3Fault :=
  ⟨400, "InvalidArgument", message, resource⟩

/-- The request has no meaning here. -/
def invalidRequest (message resource : String) : S3Fault :=
  ⟨400, "InvalidRequest", message, resource⟩

/-- The body does not have the declared digest. -/
def digestMismatch (resource : String) : S3Fault :=
  ⟨400, "XAmzContentSHA256Mismatch",
    "The provided 'x-amz-content-sha256' header does not match what was computed.", resource⟩

def malformedXml (resource : String) : S3Fault :=
  ⟨400, "MalformedXML", "The XML you provided was not well-formed or did not validate.", resource⟩

def internal (resource : String) : S3Fault :=
  ⟨500, "InternalError", "We encountered an internal error. Please try again.", resource⟩

/-- The fault of the store about a resource. -/
def ofStore (fault : StoreFault) (resource : String) : S3Fault :=
  match fault with
  | .body .digestMismatch => digestMismatch resource
  | .notFound _ => noSuchKey resource
  | .noSuchUpload _ =>
      ⟨404, "NoSuchUpload", "The specified multipart upload does not exist.", resource⟩
  | .conflict identifier =>
      ⟨409, "OperationAborted", "conflicting write: " ++ Name.keyOf identifier, resource⟩
  | .invalidPart message => ⟨400, "InvalidPart", message, resource⟩
  | .invalidPartOrder =>
      ⟨400, "InvalidPartOrder", "The list of parts was not in ascending order.", resource⟩
  | .invalidIdentifier _ reason => invalidArgument reason resource
  | .body (.transport _) => internal resource
  | .corrupted _ _ _ => internal resource
  | .missingBlob => internal resource
  | .database => internal resource

end S3Fault

end Depot.Server
