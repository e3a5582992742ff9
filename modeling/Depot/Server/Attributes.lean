import Depot.Codec.Json
import Depot.Http.Headers
import Depot.Store.Object
import Depot.Text.Decimal

/-!
# Attributes in headers

How the attributes of an object are read from the headers of the request that
writes it, and how an object is described in the headers of a response and in
the reports of the native protocol.
-/

namespace Depot.Server

set_option autoImplicit false

open Depot.Http
open Depot.Text

def metadataLead : String := "x-amz-meta-"

/-- The metadata in some header lines; of two values of one name the later counts, and a value that
is no text is passed over. -/
def metadataOf (headers : Headers) : Metadata :=
  headers.lines.foldl
    (fun metadata line =>
      match stringAfter? metadataLead line.1, valueText? line.2 with
      | some name, some text => metadata.insert name text
      | _, _ => metadata)
    Table.empty

def attributesOf (headers : Headers) : Attributes :=
  ⟨headers.text? "content-type", metadataOf headers⟩

/-- The headers with one metadata entry, unless it is not fit to be sent. -/
def insertMetadata (headers : Headers) (name value : String) : Headers :=
  match fieldName? (metadataLead ++ name) with
  | some field => headers.insertText field value
  | none => headers

/-- The headers with the description of an object: type, length, digest, time of change, and
metadata. -/
def describe (headers : Headers) (object : Object) : Headers :=
  let headers :=
    match fieldValue? object.contentType with
    | some value => headers.insert "content-type" value
    | none => headers.insertText "content-type" Object.defaultContentType
  let headers := headers.insertText "content-length" (decimal object.size.toNat)
  let headers := headers.insertText "etag" object.quotedEtag
  let headers := headers.insertText "last-modified" object.modified.httpDate
  object.attributes.metadata.entries.foldl (fun headers e => insertMetadata headers e.1 e.2) headers

/-- The report of an object in the native protocol. -/
def summary (object : Object) : String :=
  Json.objectText
    [("key", Json.quote object.key), ("size", signedDecimal object.size),
      ("etag", Json.quote object.etag), ("content_type", Json.quote object.contentType),
      ("last_modified", Json.quote object.modified.timestamp)]

end Depot.Server
