import Depot.Store.Uploads
import Depot.Xml.Text

/-!
# Documents

The documents that the S3 protocol answers with.  Every text that is put into
an element is escaped, so that no text can close its element or open another.
-/

namespace Depot.Xml

set_option autoImplicit false

open Depot.Text
open Depot.Time

/-! ## Listings -/

/-- A page of a bucket as it is listed. -/
structure Listing where
  bucket : String
  /-- What the listed keys begin with. -/
  stem : String
  delimiter? : Option String
  maxKeys : Nat
  token? : Option String
  startAfter? : Option String
  /-- The token of the next page, when there is one. -/
  nextToken? : Option String
  contents : List (String × Object)
  commonStems : List String

/-- An element around a text that may be absent. -/
def optionalElement (name : String) (text? : Option String) : String :=
  match text? with
  | some text => textElement name text
  | none => ""

/-- The element of a listed object. -/
def contentsElement (key : String) (object : Object) : String :=
  element "Contents"
    (textElement "Key" key ++ element "LastModified" object.modified.timestamp ++
      textElement "ETag" object.quotedEtag ++ element "Size" (signedDecimal object.size) ++
      element "StorageClass" "STANDARD")

/-- The document of a listing. -/
def Listing.document (l : Listing) : String :=
  Xml.document "ListBucketResult"
    (textElement "Name" l.bucket ++ textElement "Prefix" l.stem ++
      element "MaxKeys" (decimal l.maxKeys) ++
      element "KeyCount" (decimal (l.contents.length + l.commonStems.length)) ++
      optionalElement "ContinuationToken" l.token? ++ optionalElement "StartAfter" l.startAfter? ++
      optionalElement "Delimiter" l.delimiter? ++
      element "IsTruncated" (if l.nextToken?.isSome then "true" else "false") ++
      optionalElement "NextContinuationToken" l.nextToken? ++
      String.join (l.contents.map fun (key, object) => contentsElement key object) ++
      String.join
        (l.commonStems.map fun stem => element "CommonPrefixes" (textElement "Prefix" stem)))

/-- The document of the buckets of an owner, each with the moment it came into being. -/
def bucketsDocument (owner : String) (buckets : List (String × Instant)) : String :=
  document "ListAllMyBucketsResult"
    (element "Owner" (textElement "ID" owner ++ textElement "DisplayName" owner) ++
      element "Buckets"
        (String.join
          (buckets.map fun (name, created) =>
            element "Bucket"
              (textElement "Name" name ++ element "CreationDate" created.timestamp))))

def locationDocument (region : String) : String := document "LocationConstraint" (escape region)

/-! ## Objects and uploads -/

/-- The document of a finished copy. -/
def copyDocument (object : Object) : String :=
  document "CopyObjectResult"
    (element "LastModified" object.modified.timestamp ++ textElement "ETag" object.quotedEtag)

/-- The document of an upload that has begun. -/
def uploadDocument (bucket key upload : String) : String :=
  document "InitiateMultipartUploadResult"
    (textElement "Bucket" bucket ++ textElement "Key" key ++ textElement "UploadId" upload)

/-- The document of a completed upload. -/
def completionDocument (location bucket key : String) (object : Object) : String :=
  document "CompleteMultipartUploadResult"
    (textElement "Location" location ++ textElement "Bucket" bucket ++ textElement "Key" key ++
      textElement "ETag" object.quotedEtag)

/-- A part as it is listed. -/
structure ListedPart where
  number : Int
  size : Int
  etag : String
  stored : Instant

/-- A part of an upload as it is listed. -/
def ListedPart.ofPart (number : Nat) (part : Part) : ListedPart :=
  ⟨number, part.size, part.etag, part.stored⟩

/-- The element of a part. -/
def ListedPart.element (part : ListedPart) : String :=
  Xml.element "Part"
    (Xml.element "PartNumber" (signedDecimal part.number) ++
      Xml.element "LastModified" part.stored.timestamp ++
      textElement "ETag" ("\x22" ++ part.etag ++ "\x22") ++
      Xml.element "Size" (signedDecimal part.size))

/-- The document of the parts of an upload. -/
def partsDocument (bucket key upload : String) (parts : List ListedPart) : String :=
  document "ListPartsResult"
    (textElement "Bucket" bucket ++ textElement "Key" key ++ textElement "UploadId" upload ++
      element "IsTruncated" "false" ++ String.join (parts.map ListedPart.element))

/-! ## Faults -/

/-- The document of a fault. -/
def faultDocument (code message resource request : String) : String :=
  declaration ++
    element "Error"
      (element "Code" code ++ textElement "Message" message ++ textElement "Resource" resource ++
        element "RequestId" request)

/-! ## Completion requests -/

/-- Reads one part of a completion request. -/
def requestedPart? (part : List Char) : Option RequestedPart := do
  let number ← (elementChars "PartNumber".toList part).head?
  let number ← (integer maxSigned64 (trimBlank number)).toOption
  let etag ← (elementChars "ETag".toList part).head?
  return ⟨number, String.ofList (unescapeChars (trimBlank etag))⟩

/-- The parts that a completion request names, when it is one. -/
def requestedParts? (text : String) : Option (List RequestedPart) :=
  let chars := text.toList
  if hasWord "<CompleteMultipartUpload".toList chars then
    (elementChars "Part".toList chars).mapM requestedPart?
  else none

end Depot.Xml
