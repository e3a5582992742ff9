import Depot.Http.Range
import Depot.Server.Attributes
import Depot.Server.Bucket
import Depot.Server.CopySource
import Depot.Store.Read
import Depot.Store.Uploads
import Depot.Store.Write

/-!
# Objects in the S3 protocol

Writing, copying, reading and removing objects, and the uploads in parts, which
query parameters select on the same paths.
-/

namespace Depot.Server.S3

set_option autoImplicit false

open Depot.Auth
open Depot.Http
open Depot.Text
open Depot.Time

/-! ## The addressed object -/

/-- The bucket and key that a request addresses. -/
structure Address where
  owner : String
  bucket : String
  key : String
  deriving DecidableEq, Repr

namespace Address

def identifier (a : Address) : String := Name.identifier a.owner a.bucket a.key

def resource (a : Address) : String := "/" ++ a.bucket ++ "/" ++ a.key

/-- The address of a key in a bucket, whose name must be one. -/
def of (owner bucket key : String) : Except S3Fault Address :=
  let address : Address := ⟨owner, bucket, key⟩
  match Name.checkBucket bucket with
  | .ok () => .ok address
  | .error fault => .error (.invalidBucketName fault.reason address.resource)

def fromStore {α : Type} (a : Address) (action : Store.Action α) : Action α :=
  S3.fromStore a.resource action

end Address

/-- The query parameters of an object. -/
def objectParameters : List String := ["partNumber", "uploadId", "uploads"]

/-- A response without body that states the digest of what was written. -/
def etagResponse (etag : String) : Response :=
  (Response.ofStatus 200).withHeader "etag" ("\x22" ++ etag ++ "\x22")

/-! ## Uploads in parts -/

/-- Begins an upload. -/
def beginUpload (target : Address) (headers : Headers) (now : Instant) : Action Response := do
  let (name, _) ← target.fromStore
    (Store.beginUpload target.identifier (attributesOf headers) now)
  return .xml 200 (Xml.uploadDocument target.bucket target.key name)

/-- Reads the number of a part. -/
def readPartNumber (target : Address) (text : String) : Except S3Fault Int :=
  let fault := S3Fault.invalidArgument
    ("partNumber must be an integer between 1 and " ++ decimal Store.maxPartNumber) target.resource
  match integer64? text with
  | some n => if 1 ≤ n ∧ n ≤ Store.maxPartNumber then .ok n else .error fault
  | none => .error fault

/-- Stores a part of an upload. -/
def uploadPart (target : Address) (upload number : String) (body : Body) (now : Instant) :
    Action Response := do
  let number ← readPartNumber target number
  let part ← target.fromStore (Store.uploadPart upload target.identifier number body now)
  return etagResponse part.etag

/-- The largest document that completes an upload. -/
def completionLimit : Nat := 2097152

/-- The parts that the document in a body names. -/
def readCompletion (target : Address) (body : Body) : Except S3Fault (List RequestedPart) :=
  match body.contentsWithin completionLimit with
  | .tooLarge => .error (.malformedXml target.resource)
  | .failed .digestMismatch => .error (.digestMismatch target.resource)
  | .failed (.transport _) => .error (.malformedXml target.resource)
  | .within bytes =>
      match (String.fromUTF8? bytes).bind Xml.requestedParts? with
      | some parts => .ok parts
      | none => .error (.malformedXml target.resource)

/-- Completes an upload. -/
def completeUpload (target : Address) (upload : String) (body : Body) (now : Instant) :
    Action Response := do
  let requested ← readCompletion target body
  let object ← target.fromStore (Store.complete upload target.identifier requested now)
  return .xml 200 (Xml.completionDocument target.resource target.bucket target.key object)

/-- Gives up an upload. -/
def abortUpload (target : Address) (upload : String) : Action Response := do
  target.fromStore (Store.abort upload target.identifier)
  return .ofStatus 204

/-- Lists the parts of an upload. -/
def listParts (target : Address) (upload : String) : Action Response := do
  let parts ← target.fromStore (Store.listParts upload target.identifier)
  return .xml 200
    (Xml.partsDocument target.bucket target.key upload
      (parts.map fun e => Xml.ListedPart.ofPart e.1 e.2))

/-! ## Writing -/

/-- The attributes that a copy gets: those of its source, or those of the request when it asks for
them to be replaced. -/
def copyAttributes (target : Address) (headers : Headers) :
    Except S3Fault (Option Attributes) :=
  match headers.get? "x-amz-metadata-directive" with
  | none => .ok none
  | some value =>
      let directive := upper ((valueText? value).getD "")
      if directive = "COPY" then .ok none
      else if directive = "REPLACE" then .ok (some (attributesOf headers))
      else
        .error
          (.invalidArgument ("unknown metadata directive `" ++ directive ++ "`") target.resource)

/-- The object that a copy header names. -/
def readCopySource (target : Address) (value : FieldValue) : Except S3Fault Address :=
  match (valueText? value).bind copySource? with
  | some (bucket, key) => Address.of target.owner bucket key
  | none => .error (.invalidArgument "x-amz-copy-source must be bucket/key" target.resource)

/-- The fault of a copy: only the source can be missing. -/
def copyFault (source target : Address) : StoreFault → S3Fault
  | .notFound _ => .noSuchKey source.resource
  | fault => .ofStore fault target.resource

/-- Copies an object. -/
def copyObject (target : Address) (value : FieldValue) (headers : Headers) (now : Instant) :
    Action Response := do
  let source ← readCopySource target value
  let attributes? ← copyAttributes target headers
  let object ← ExceptT.adapt (copyFault source target)
    (Store.copy source.identifier target.identifier attributes? now)
  return .xml 200 (Xml.copyDocument object)

/-- Writes an object, copies one, or stores a part of an upload. -/
def putObject (user : User) (bucket key : String) (params : List Parameter) (headers : Headers)
    (body : Body) (now : Instant) : Action Response := do
  let target ← Address.of user.userId bucket key
  match valueOf? params "uploadId" with
  | some upload =>
      match valueOf? params "partNumber" with
      | some number => uploadPart target upload number body now
      | none =>
          throw (.invalidArgument "partNumber is required with uploadId" target.resource)
  | none =>
      match headers.get? "x-amz-copy-source" with
      | some value => copyObject target value headers now
      | none =>
          let object ← target.fromStore
            (Store.put target.identifier (attributesOf headers) body now)
          return etagResponse object.etag

/-- Begins or completes an upload. -/
def postObject (user : User) (bucket key : String) (params : List Parameter) (headers : Headers)
    (body : Body) (now : Instant) : Action Response := do
  let target ← Address.of user.userId bucket key
  if (valueOf? params "uploads").isSome then beginUpload target headers now
  else
    match valueOf? params "uploadId" with
    | some upload => completeUpload target upload body now
    | none =>
        throw
          (.invalidRequest "POST on an object requires ?uploads or ?uploadId" target.resource)

/-- Removes an object, which need not be there. -/
def removeIfThere (identifier : String) : Store.Action Unit :=
  tryCatch (discard (Store.delete identifier)) fun
    | .notFound _ => return ()
    | fault => throw fault

/-- Removes an object, which need not be there, or gives up an upload. -/
def deleteObject (user : User) (bucket key : String) (params : List Parameter) :
    Action Response := do
  let target ← Address.of user.userId bucket key
  match valueOf? params "uploadId" with
  | some upload => abortUpload target upload
  | none =>
      target.fromStore (removeIfThere target.identifier)
      return .ofStatus 204

/-! ## Reading -/

/-- The largest object that is checked against its digest before it is sent. -/
def checkedReadLimit : Int := 8388608

/-- The response with some bytes of an object. -/
def objectResponse (status : Nat) (object : Object) (bytes : ByteArray) : Response :=
  ⟨status, (describe Headers.empty object).insertText "accept-ranges" "bytes", bytes⟩

/-- The description of an object. -/
def headObject (user : User) (bucket key : String) : Action Response := do
  let target ← Address.of user.userId bucket key
  let object ← target.fromStore (Store.head target.identifier)
  return objectResponse 200 object ByteArray.empty

/-- A whole object; one of moderate size is checked first. -/
def wholeObject (target : Address) (size : Int) : Action Response := do
  let content ← target.fromStore
    (if size ≤ checkedReadLimit then Store.read target.identifier
    else Store.peek target.identifier)
  return objectResponse 200 content.object content.bytes

/-- A range of an object.  The object may have become shorter since the range was read. -/
def partialObject (target : Address) (range : ByteRange) : Action Response := do
  let content ← target.fromStore (Store.peek target.identifier)
  let size := content.object.size.toNat
  if size ≤ range.first then throw (.invalidRange target.resource)
  let last := min range.last (size - 1)
  let length := last - range.first + 1
  let bytes := content.bytes.extract range.first (range.first + length)
  let response := objectResponse 206 content.object bytes
  return (response.withHeader "content-length" (decimal length)).withHeader "content-range"
    ("bytes " ++ decimal range.first ++ "-" ++ decimal last ++ "/" ++ decimal size)

/-- An object or a range of it, or the parts of an upload. -/
def getObject (user : User) (bucket key : String) (params : List Parameter) (headers : Headers) :
    Action Response := do
  let target ← Address.of user.userId bucket key
  match valueOf? params "uploadId" with
  | some upload => listParts target upload
  | none =>
      let object ← target.fromStore (Store.head target.identifier)
      match headers.text? "range" with
      | none => wholeObject target object.size
      | some text =>
          match RangeRequest.ofText text object.size.toNat with
          | .part range => partialObject target range
          | .whole => wholeObject target object.size
          | .unsatisfiable => throw (.invalidRange target.resource)

end Depot.Server.S3
