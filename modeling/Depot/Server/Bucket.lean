import Depot.Auth.Credential
import Depot.Codec.Base64
import Depot.Http.Message
import Depot.Http.Query
import Depot.Name.Bucket
import Depot.Server.Fault
import Depot.Store.Page

/-!
# Buckets in the S3 protocol

A bucket is nothing but the objects in it: it is there while it holds one, it
can be removed while it holds none, and creating one only checks its name.
-/

namespace Depot.Server.S3

set_option autoImplicit false

open Depot.Auth
open Depot.Http
open Depot.Text

abbrev Action (α : Type) := ExceptT S3Fault (StateM Store) α

/-- An operation of the store about a resource, with its faults as the S3 protocol answers them. -/
def fromStore {α : Type} (resource : String) (action : Store.Action α) : Action α :=
  ExceptT.adapt (S3Fault.ofStore · resource) action

def bucketResource (bucket : String) : String := "/" ++ bucket

/-- Fails when a bucket cannot have its name. -/
def requireBucket (bucket : String) : Except S3Fault Unit :=
  match Name.checkBucket bucket with
  | .ok () => .ok ()
  | .error fault => .error (.invalidBucketName fault.reason (bucketResource bucket))

/-! ## Listing -/

/-- The query parameters of a listing. -/
def listingParameters : List String :=
  ["list-type", "prefix", "delimiter", "max-keys", "continuation-token", "start-after", "marker",
    "location"]

/-- The most keys on a page, and their number when none is asked for. -/
def pageKeys : Nat := 1000

/-- The number of keys that a listing asks for. -/
def readMaxKeys (resource : String) (text? : Option String) : Except S3Fault Nat :=
  match text? with
  | none => .ok pageKeys
  | some text =>
      match natural64? text with
      | some n => .ok (min n pageKeys)
      | none => .error (.invalidArgument "max-keys must be a non-negative integer" resource)

/-- The key that a listing resumes after. -/
def readResume (resource : String) (params : List Parameter) : Except S3Fault (Option String) :=
  match valueOf? params "continuation-token" with
  | some token =>
      match Base64.decodeText? token with
      | some key => .ok (some key)
      | none => .error (.invalidArgument "The continuation token provided is incorrect" resource)
  | none => .ok ((valueOf? params "start-after").or (valueOf? params "marker"))

/-- The listing of a page. -/
def listingOf (bucket : String) (params : List Parameter) (stem : String)
    (delimiter? : Option String) (maxKeys : Nat) (page : Store.Page) : Xml.Listing :=
  { bucket
    stem
    delimiter?
    maxKeys
    token? := valueOf? params "continuation-token"
    startAfter? := valueOf? params "start-after"
    nextToken? := page.next?.map Base64.encodeText
    contents := page.entries.filterMap fun
      | .object key object => some (key, object)
      | .commonStem _ => none
    commonStems := page.entries.filterMap fun
      | .object _ _ => none
      | .commonStem stem => some stem }

/-- Lists a page of a bucket, or answers with the region when the location is asked for. -/
def listObjects (user : User) (bucket : String) (params : List Parameter) (region : String) :
    Action Response := do
  requireBucket bucket
  let resource := bucketResource bucket
  if (valueOf? params "location").isSome then
    return .xml 200 (Xml.locationDocument region)
  if let some listType := valueOf? params "list-type" then
    if listType ≠ "2" then
      throw (.invalidArgument ("unsupported list-type `" ++ listType ++ "`") resource)
  let maxKeys ← readMaxKeys resource (valueOf? params "max-keys")
  let stem := (valueOf? params "prefix").getD ""
  let delimiter? := (valueOf? params "delimiter").filter (!·.isEmpty)
  let after? ← readResume resource params
  let request : Store.PageRequest :=
    ⟨Name.bucketScope user.userId bucket, stem, delimiter?, after?⟩
  let page ← fromStore resource (Store.collectPage request maxKeys)
  return .xml 200 (listingOf bucket params stem delimiter? maxKeys page).document

/-- Lists the buckets of a user: the first segments of their identifiers that are bucket names. -/
def listBuckets (user : User) : Action Response := do
  let segments ← fromStore "/" (Store.topLevel (Name.ownerScope user.userId))
  let buckets := segments.filter fun e => Name.isBucketName e.1
  return .xml 200 (Xml.bucketsDocument user.userId buckets)

/-! ## Single buckets -/

def holdsObject (user : User) (bucket : String) : Action Bool :=
  fromStore (bucketResource bucket) (Store.anyUnder (Name.bucketScope user.userId bucket))

/-- Says that a bucket holds an object. -/
def headBucket (user : User) (bucket : String) : Action Response := do
  requireBucket bucket
  if ← holdsObject user bucket then return .ofStatus 200
  else throw (.noSuchBucket (bucketResource bucket))

/-- Checks the name of a bucket and says where it is. -/
def createBucket (bucket : String) : Except S3Fault Response := do
  requireBucket bucket
  return (Response.ofStatus 200).withHeader "location" (bucketResource bucket)

/-- Says that a bucket holds no object. -/
def deleteBucket (user : User) (bucket : String) : Action Response := do
  requireBucket bucket
  if ← holdsObject user bucket then throw (.bucketNotEmpty (bucketResource bucket))
  else return .ofStatus 204

end Depot.Server.S3
