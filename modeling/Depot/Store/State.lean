import Depot.Codec.Hex
import Depot.Digest.Md5
import Depot.Store.Fault
import Depot.Store.Object
import Depot.Store.Part

/-!
# The store

Rows about objects and uploads, and the blobs that hold their bytes.  A blob is
written once and never changed; a row names the blob that holds its content.

An operation is a function of the store that answers with a value or a fault
and always leaves a store behind: a fault does not undo what was done before
it.  The small steps that all operations are made of stand here.
-/

namespace Depot

set_option autoImplicit false

open Depot.Http
open Depot.Time

/-- The row of an object. -/
structure Row where
  blob : Nat
  contentType? : Option String
  /-- Absent when what is stored is no metadata; the row can then not be read. -/
  metadata? : Option Metadata
  size : Int
  etag : String
  modified : Instant

/-- The row of an upload in parts that is neither completed nor given up. -/
structure UploadRow where
  identifier : String
  attributes : Attributes
  started : Instant

/-- An upload with its parts by their numbers. -/
structure Upload where
  identifier : String
  attributes : Attributes
  started : Instant
  parts : Table Nat Part

/-- Which devices do their work. -/
structure Health where
  /-- The rows can be reached. -/
  databaseOpen : Bool := true
  /-- The place of the blobs exists. -/
  blobPlace : Bool := true
  /-- The row of an existing object can be changed. -/
  rowsChangeable : Bool := true
  /-- The row of an upload can be removed. -/
  uploadsRemovable : Bool := true

/-- The rows and blobs of all users. -/
structure Store where
  objects : Table String Row
  uploadRows : Table String UploadRow
  partRows : Table PartKey Part
  blobs : Table Nat ByteArray
  /-- Above the number of every blob ever written. -/
  nextBlob : Nat
  /-- Above the number of every upload ever begun. -/
  nextUpload : Nat
  health : Health

namespace Store

/-- The number of the first upload; its name has thirty-two digits. -/
def firstUpload : Nat := 0xc0ffee00c0ffee00c0ffee00c0ffee00

def empty : Store :=
  ⟨Table.empty, Table.empty, Table.empty, Table.empty, 0, firstUpload, {}⟩

def partsOf (s : Store) (name : String) : Table Nat Part := Part.ofUpload s.partRows name

def uploadOf (s : Store) (name : String) (row : UploadRow) : Upload :=
  ⟨row.identifier, row.attributes, row.started, s.partsOf name⟩

def uploads (s : Store) : Table String Upload := s.uploadRows.mapValues s.uploadOf

/-- An operation: a function of the store that can fail and always leaves a store behind. -/
abbrev Action (α : Type) := ExceptT StoreFault (StateM Store) α

/-! ## Blobs -/

/-- A blob that has just been written. -/
structure Written where
  blob : Nat
  size : Nat
  etag : String

/-- The digest that names some bytes. -/
def etagOf (bytes : ByteArray) : String := Hex.encode (Digest.Md5.digest bytes)

/-- The place of the blobs is made when it is missing. -/
def makeBlobPlace : Action Unit :=
  modify fun s => { s with health := { s.health with blobPlace := true } }

/-- Keeps some bytes as a new blob. -/
def keepBytes (bytes : ByteArray) : Action Written := do
  let s ← get
  set { s with blobs := s.blobs.insert s.nextBlob bytes, nextBlob := s.nextBlob + 1 }
  return ⟨s.nextBlob, bytes.size, etagOf bytes⟩

/-- Writes a body as a new blob; a body that fails leaves none. -/
def writeBlob (body : Body) : Action Written := do
  makeBlobPlace
  match body.contents with
  | .ok bytes => keepBytes bytes
  | .error fault => throw (.body fault)

/-- The bytes of a blob. -/
def readBlob (blob : Nat) : Action ByteArray := do
  match (← get).blobs.find? blob with
  | some bytes => return bytes
  | none => throw .missingBlob

/-- Writes the bytes of some blobs, one after another, as a new blob. -/
def joinBlobs (blobs : List Nat) : Action Written := do
  makeBlobPlace
  let contents ← blobs.mapM readBlob
  keepBytes (contents.foldl (· ++ ·) ByteArray.empty)

def discardBlob (blob : Nat) : Action Unit :=
  modify fun s => { s with blobs := s.blobs.erase blob }

/-! ## Rows of objects -/

/-- Fails when the rows cannot be reached. -/
def requireDatabase : Action Unit := do
  if !(← get).health.databaseOpen then throw .database

/-- The object that a row describes. -/
def readRow (identifier : String) (row : Row) : Except StoreFault Object :=
  match row.metadata? with
  | some metadata =>
      .ok
        { identifier
          blob := row.blob
          attributes := ⟨row.contentType?, metadata⟩
          size := row.size
          etag := row.etag
          modified := row.modified }
  | none => .error .database

/-- The object under an identifier, when there is one. -/
def find (identifier : String) : Action (Option Object) := do
  requireDatabase
  match (← get).objects.find? identifier with
  | none => return none
  | some row => return some (← readRow identifier row)

/-- The object under an identifier. -/
def fetch (identifier : String) : Action Object := do
  match ← find identifier with
  | some object => return object
  | none => throw (.notFound identifier)

/-- Fails when an identifier cannot be stored. -/
def requireIdentifier (identifier : String) : Action Unit :=
  match Name.checkIdentifier identifier with
  | .ok () => return ()
  | .error fault => throw (.ofIdentifier identifier fault)

/-- Lets the row of an identifier name a blob, and makes the row when there is none. -/
def pointTo (identifier : String) (written : Written) (attributes : Attributes) (now : Instant) :
    Action Object := do
  requireDatabase
  let s ← get
  if s.objects.has identifier && !s.health.rowsChangeable then throw .database
  let row : Row :=
    { blob := written.blob
      contentType? := attributes.contentType?
      metadata? := some attributes.metadata
      size := written.size
      etag := written.etag
      modified := now }
  set { s with objects := s.objects.insert identifier row }
  readRow identifier row

/-- Puts a new blob into the place of the one an object had.  The blob that is not needed any more
goes: the old one, or the new one when the row cannot be changed. -/
def commit (identifier : String) (written : Written) (attributes : Attributes)
    (previous? : Option Object) (now : Instant) : Action Object :=
  tryCatch
    (do
      let object ← pointTo identifier written attributes now
      if let some previous := previous? then discardBlob previous.blob
      return object)
    fun fault => do
      discardBlob written.blob
      throw fault

end Store

end Depot
