import Depot.Store.State
import Depot.Text.Blank
import Depot.Text.Decimal

/-!
# Uploads in parts

An upload collects numbered parts and becomes an object when it is completed.
Each part has a row and a blob of its own; completing writes the chosen parts as
one new blob.
-/

namespace Depot

set_option autoImplicit false

open Depot.Http
open Depot.Text
open Depot.Time

/-- A part that a client names to complete an upload. -/
structure RequestedPart where
  number : Int
  etag : String
  deriving DecidableEq, Repr

namespace Store

def maxPartNumber : Nat := 10000

/-- The name of an upload, from its number. -/
def uploadName (n : Nat) : String :=
  let digits := Nat.toDigits 16 n
  String.ofList (List.replicate (32 - digits.length) '0' ++ digits)

/-- Begins an upload for an identifier and answers with its name. -/
def beginUpload (identifier : String) (attributes : Attributes) (now : Instant) :
    Action (String × Upload) := do
  requireIdentifier identifier
  requireDatabase
  let s ← get
  let name := uploadName s.nextUpload
  let row : UploadRow := ⟨identifier, attributes, now⟩
  set { s with uploadRows := s.uploadRows.insert name row, nextUpload := s.nextUpload + 1 }
  return (name, ⟨identifier, attributes, now, Table.empty⟩)

/-- The upload of a name, when it is for the identifier. -/
def fetchUpload (name identifier : String) : Action Upload := do
  requireDatabase
  let s ← get
  match s.uploadRows.find? name with
  | some row =>
      if row.identifier = identifier then return s.uploadOf name row
      else throw (.noSuchUpload name)
  | none => throw (.noSuchUpload name)

/-- Stores a part, in the place of one with the same number. -/
def uploadPart (name identifier : String) (number : Int) (body : Body) (now : Instant) :
    Action Part := do
  if number < 1 ∨ (maxPartNumber : Int) < number then
    throw (.invalidPart ("part number must be between 1 and " ++ decimal maxPartNumber))
  let _ ← fetchUpload name identifier
  let written ← writeBlob body
  let upload ← fetchUpload name identifier
  let part : Part := ⟨written.blob, written.size, written.etag, now⟩
  modify fun s => { s with partRows := s.partRows.insert ⟨name, number.toNat⟩ part }
  if let some previous := upload.parts.find? number.toNat then discardBlob previous.blob
  return part

/-- The parts of an upload by their numbers. -/
def listParts (name identifier : String) : Action (List (Nat × Part)) := do
  let upload ← fetchUpload name identifier
  return upload.parts.entries

/-- A digest as clients send it, without blanks and quotes around it. -/
def plainEtag (etag : String) : String :=
  String.ofList (trim (· == '\x22') (trimBlank etag.toList))

/-- The parts of a request, whose numbers must rise from above `last` on. -/
def chooseFrom (parts : Table Nat Part) (last : Int) :
    List RequestedPart → Except StoreFault (List Part)
  | [] => .ok []
  | requested :: rest =>
      if requested.number ≤ last then .error .invalidPartOrder
      else
        match parts.find? requested.number.toNat with
        | none =>
            .error
              (.invalidPart ("part " ++ signedDecimal requested.number ++ " was not uploaded"))
        | some part =>
            if plainEtag requested.etag = part.etag then
              (chooseFrom parts requested.number rest).map (part :: ·)
            else
              .error
                (.invalidPart ("etag mismatch for part " ++ signedDecimal requested.number))

/-- The parts that a completion joins: the requested ones, or all when none are named. -/
def chooseParts (parts : Table Nat Part) (requested : List RequestedPart) :
    Except StoreFault (List Part) :=
  if requested.isEmpty then
    if parts.entries.isEmpty then .error (.invalidPart "no parts have been uploaded")
    else .ok (parts.entries.map Prod.snd)
  else chooseFrom parts 0 requested

/-- Removes an upload with its parts and their blobs. -/
def dropUpload (name : String) (upload : Upload) : Action Unit := do
  requireDatabase
  if !(← get).health.uploadsRemovable then throw .database
  modify fun s =>
    { s with
      uploadRows := s.uploadRows.erase name
      partRows := s.partRows.filter fun key _ => decide (key.upload ≠ name) }
  upload.parts.entries.forM fun e => discardBlob e.2.blob

/-- Joins the chosen parts of an upload into the object it is for, and ends the upload.  Once the
object is there, an upload that cannot be removed does not matter. -/
def complete (name identifier : String) (requested : List RequestedPart) (now : Instant) :
    Action Object := do
  let upload ← fetchUpload name identifier
  let chosen ← chooseParts upload.parts requested
  let joined ← joinBlobs (chosen.map Part.blob)
  let previous? ← find identifier
  let object ← commit identifier joined upload.attributes previous? now
  tryCatch (dropUpload name upload) fun _ => return ()
  return object

/-- Gives up an upload. -/
def abort (name identifier : String) : Action Unit := do
  let upload ← fetchUpload name identifier
  dropUpload name upload

end Store

end Depot
