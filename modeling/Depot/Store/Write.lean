import Depot.Store.State

/-!
# Changing objects

Creating, replacing, extending, moving, copying and removing objects.  A change
of content writes a new blob first and lets the row name it afterwards, so that
a body that fails on the way changes no row.
-/

namespace Depot.Store

set_option autoImplicit false

open Depot.Http
open Depot.Time

/-- Creates an object or replaces it with its attributes. -/
def put (identifier : String) (attributes : Attributes) (body : Body) (now : Instant) :
    Action Object := do
  requireIdentifier identifier
  let written ← writeBlob body
  let previous? ← find identifier
  commit identifier written attributes previous? now

/-- Creates or replaces an object whose content comes in pieces. -/
def putPieces (identifier : String) (attributes : Attributes) (pieces : List ByteArray)
    (now : Instant) : Action Object :=
  put identifier attributes (pieces.map .data) now

/-- The object under an identifier, for which `written` was written; when there is none the blob
goes. -/
def fetchFor (identifier : String) (written : Written) : Action Object :=
  tryCatch (fetch identifier) fun fault => do
    discardBlob written.blob
    throw fault

/-- Runs an operation and answers with an operation that has its outcome, value or fault. -/
def observing {α : Type} (action : Action α) : Action (Action α) :=
  tryCatch (return pure (← action)) fun fault => return throw fault

/-- Replaces the content of an object and keeps its attributes. -/
def update (identifier : String) (body : Body) (now : Instant) : Action Object := do
  requireIdentifier identifier
  let written ← writeBlob body
  let previous ← fetchFor identifier written
  commit identifier written previous.attributes (some previous) now

/-- Joins the content of an object with a written blob. -/
def joinTo (identifier : String) (written : Written) (now : Instant) : Action Object := do
  let previous ← fetch identifier
  let joined ← joinBlobs [previous.blob, written.blob]
  commit identifier joined previous.attributes (some previous) now

/-- Adds bytes to the end of an object.  They are kept as a blob of their own until the object has
been joined with them, or cannot be. -/
def append (identifier : String) (body : Body) (now : Instant) : Action Object := do
  requireIdentifier identifier
  let written ← writeBlob body
  let outcome ← observing (joinTo identifier written now)
  discardBlob written.blob
  outcome

/-- Moves an object to another identifier, which must be free. -/
def rename (old new : String) (now : Instant) : Action Object := do
  requireIdentifier old
  requireIdentifier new
  let current ← fetch old
  if old = new then return current
  if (← find new).isSome then throw (.conflict new)
  let s ← get
  if !s.health.rowsChangeable then throw .database
  match s.objects.find? old with
  | none => throw (.notFound old)
  | some row =>
      let moved := { row with modified := now }
      set { s with objects := (s.objects.erase old).insert new moved }
      readRow new moved

/-- Copies an object to another identifier or onto itself, with its own attributes unless others
are given. -/
def copy (source destination : String) (attributes? : Option Attributes) (now : Instant) :
    Action Object := do
  requireIdentifier source
  requireIdentifier destination
  let current ← fetch source
  let previous? ← if source = destination then pure (some current) else find destination
  let written ← joinBlobs [current.blob]
  commit destination written (attributes?.getD current.attributes) previous? now

/-- Removes an object and answers with what was known of it. -/
def delete (identifier : String) : Action Object := do
  requireIdentifier identifier
  requireDatabase
  let s ← get
  match s.objects.find? identifier with
  | none => throw (.notFound identifier)
  | some row =>
      set { s with objects := s.objects.erase identifier }
      let object ← readRow identifier row
      discardBlob object.blob
      return object

end Depot.Store
