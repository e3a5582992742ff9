import Depot.Auth.Fault
import Depot.Codec.Percent
import Depot.Http.Headers
import Depot.Http.Target
import Depot.Text.Blank
import Depot.Time.Compact
import Depot.Time.Mail

/-!
# The canonical form of a request

Two requests that mean the same have one canonical form, and the form is what a
signature covers: method, path, query, the signed headers with their values,
their names, and the digest of the body.
-/

namespace Depot.Auth

set_option autoImplicit false

open Depot.Http
open Depot.Text
open Depot.Time

/-- A text with its triples read and written anew, so that each byte has one spelling. -/
def reencode (keep : UInt8 → Bool) (list : List UInt8) : String :=
  Percent.encodedText keep (Percent.decode list)

def canonicalPath (path : String) : String :=
  if path.isEmpty then "/" else reencode Percent.isPathByte (bytes path)

/-- The canonical form of one piece of a query: name and value. -/
def canonicalPair (piece : List UInt8) : String × String :=
  match cutAt 61 piece with
  | some (name, value) =>
      (reencode Percent.isUnreserved name, reencode Percent.isUnreserved value)
  | none => (reencode Percent.isUnreserved piece, "")

/-- Whether a pair comes before another or is the same: by name, then by value. -/
def pairLe (a b : String × String) : Bool :=
  decide (a.1 < b.1) || (a.1 == b.1 && decide (a.2 ≤ b.2))

def canonicalPairs (query : String) : List (String × String) :=
  (((pieces 38 (bytes query)).filter (!·.isEmpty)).map canonicalPair).mergeSort pairLe

def canonicalQuery (query? : Option String) : String :=
  joined "&" ((canonicalPairs (query?.getD "")).map fun p => p.1 ++ "=" ++ p.2)

/-- The text of a header value in which every run of blanks is one space. -/
def plainValue (name : String) (value : FieldValue) : Except AuthFault String :=
  match valueText? value with
  | some text => .ok (joined " " ((blankWords text.toList).map String.ofList))
  | none => .error (.malformed ("header `" ++ name ++ "` is not ASCII"))

/-- What a signed header contributes: its values with commas between them.  A host that no header
names is taken from the target. -/
def signedValue (target : Target) (headers : Headers) (name : String) :
    Except AuthFault String := do
  let values ← (headers.getAll (lower name)).mapM (plainValue name)
  if !values.isEmpty then return joined "," values
  match if name = "host" then target.authority? else none with
  | some authority => return authority
  | none => throw (.malformed ("signed header `" ++ name ++ "` is missing"))

/-- The line of a signed header. -/
def signedLine (target : Target) (headers : Headers) (name : String) :
    Except AuthFault String := do
  return name ++ ":" ++ (← signedValue target headers name) ++ "\n"

/-- The canonical form of a request. -/
def canonicalRequest (method : String) (target : Target) (headers : Headers)
    (signedHeaders : List String) (payloadHash : String) : Except AuthFault String := do
  let lines ← signedHeaders.mapM (signedLine target headers)
  return method ++ "\n" ++ canonicalPath target.path ++ "\n" ++ canonicalQuery target.query? ++
    "\n" ++ String.join lines ++ "\n" ++ joined ";" signedHeaders ++ "\n" ++ payloadHash

/-- The header with the time of signing. -/
def dateHeader : String := "x-amz-date"

/-- The header with the digest of the body. -/
def digestHeader : String := "x-amz-content-sha256"

/-- The digest that stands for a body which is not covered by the signature. -/
def unsignedPayload : String := "UNSIGNED-PAYLOAD"

/-- The moment that a request was signed at, from its own header or from the general one. -/
def requestTime (headers : Headers) : Except AuthFault Instant :=
  match headers.get? dateHeader with
  | some value =>
      match valueText? value with
      | none => .error (.malformed "x-amz-date is not ASCII")
      | some text =>
          match Instant.ofCompact? text with
          | some moment => .ok moment
          | none => .error (.malformed ("bad x-amz-date `" ++ text ++ "`"))
  | none =>
      match headers.get? "date" with
      | none => .error (.missingHeader dateHeader)
      | some value =>
          match valueText? value with
          | none => .error (.malformed "Date is not ASCII")
          | some text =>
              match Instant.ofMail? text with
              | some moment => .ok moment
              | none => .error (.malformed ("bad Date `" ++ text ++ "`"))

end Depot.Auth
