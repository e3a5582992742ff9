import Depot.Proofs.Names
import Depot.Proofs.Store.Calls
import Depot.Proofs.Store.Changes

/-!
# Objects as a finite map

A ledger maps identifiers to records.  It is what the operations on objects are
about once blobs, rows and devices are left out: each operation checks what it
is given, looks its record up, and changes at most one entry, or two when it
moves a record.  An operation that fails leaves the ledger as it is.

Nothing here mentions a store: that every operation does what its ledger says is
shown elsewhere.
-/

namespace Depot

set_option autoImplicit false

open Depot.Http
open Depot.Text
open Depot.Time

/-! ## The ledger -/

/-- Objects by their identifiers, without blobs. -/
abbrev Ledger := Table String Record

namespace Ledger

/-- Fails when an identifier cannot be stored. -/
def checked (identifier : String) : Except StoreFault Unit :=
  let refused (reason : String) : Except StoreFault Unit :=
    .error (.invalidIdentifier identifier reason)
  if identifier.toList.head? = some Name.ownerMark then refused "owner must not be empty"
  else if Name.pathOf identifier = [] then refused "must not be empty"
  else if 1024 < (String.ofList (Name.pathOf identifier)).utf8ByteSize then
    refused "longer than 1024 bytes"
  else if (identifier.toList.erase Name.ownerMark).any isControl then
    refused "contains control characters"
  else .ok ()

theorem checked_eq (identifier : String) :
    checked identifier =
      (Name.checkIdentifier identifier).mapError (.ofIdentifier identifier) := by
  rw [Name.checkIdentifier_eq, checked]
  repeat' split
  all_goals rfl

theorem checked_eq_ok_iff {identifier : String} :
    checked identifier = .ok () ↔ Name.Storable identifier := by
  rw [checked_eq, ← Name.checkIdentifier_eq_ok_iff]
  cases Name.checkIdentifier identifier with
  | ok _ => exact iff_of_true rfl rfl
  | error _ => exact iff_of_false nofun nofun

/-- The whole of a body: its data one after another, unless it fails. -/
def whole : Body → Except StoreFault ByteArray
  | [] => .ok ByteArray.empty
  | .data bytes :: rest => (whole rest).map (bytes ++ ·)
  | .failure fault :: _ => .error (.body fault)

theorem readOnto_mapError (read : ByteArray) (body : Body) :
    (Body.readOnto read body).mapError StoreFault.body = (whole body).map (read ++ ·) := by
  induction body generalizing read with
  | nil => exact congrArg Except.ok (ByteArray.append_empty).symm
  | cons chunk rest ih =>
      cases chunk with
      | failure fault => rfl
      | data bytes =>
          rw [Body.readOnto, ih, whole]
          cases whole rest <;> simp [Except.map, ByteArray.append_assoc]

theorem whole_eq (body : Body) : whole body = body.contents.mapError .body := by
  rw [Body.contents, readOnto_mapError]
  cases whole body <;> simp [Except.map]

/-- The record under an identifier. -/
def fetch (ledger : Ledger) (identifier : String) : Except StoreFault Record :=
  match ledger.find? identifier with
  | some record => .ok record
  | none => .error (.notFound identifier)

/-- A record is shown, and set under its identifier. -/
def enter (ledger : Ledger) (identifier : String) (record : Record) : Object × Ledger :=
  (record.object identifier, ledger.insert identifier record)

/-- Creates an object or replaces it with its attributes. -/
def put (ledger : Ledger) (identifier : String) (attributes : Attributes) (body : Body)
    (now : Instant) : Except StoreFault (Object × Ledger) := do
  checked identifier
  let bytes ← whole body
  return ledger.enter identifier ⟨bytes, attributes, now⟩

/-- Creates or replaces an object whose content comes in pieces. -/
def putPieces (ledger : Ledger) (identifier : String) (attributes : Attributes)
    (pieces : List ByteArray) (now : Instant) : Except StoreFault (Object × Ledger) := do
  checked identifier
  return ledger.enter identifier ⟨pieces.foldl (· ++ ·) ByteArray.empty, attributes, now⟩

/-- Replaces the content of an object and keeps its attributes. -/
def update (ledger : Ledger) (identifier : String) (body : Body) (now : Instant) :
    Except StoreFault (Object × Ledger) := do
  checked identifier
  let bytes ← whole body
  let known ← ledger.fetch identifier
  return ledger.enter identifier ⟨bytes, known.attributes, now⟩

/-- Adds bytes to the end of an object. -/
def append (ledger : Ledger) (identifier : String) (body : Body) (now : Instant) :
    Except StoreFault (Object × Ledger) := do
  checked identifier
  let bytes ← whole body
  let known ← ledger.fetch identifier
  return ledger.enter identifier ⟨known.bytes ++ bytes, known.attributes, now⟩

/-- Moves an object to another identifier, which must be free. -/
def rename (ledger : Ledger) (old new : String) (now : Instant) :
    Except StoreFault (Object × Ledger) := do
  checked old
  checked new
  let known ← ledger.fetch old
  if old = new then return (known.object old, ledger)
  else if ledger.has new then throw (.conflict new)
  else return enter (ledger.erase old) new { known with modified := now }

/-- Copies an object, also onto itself, with its own attributes unless others are given. -/
def copy (ledger : Ledger) (source destination : String) (attributes? : Option Attributes)
    (now : Instant) : Except StoreFault (Object × Ledger) := do
  checked source
  checked destination
  let known ← ledger.fetch source
  return ledger.enter destination ⟨known.bytes, attributes?.getD known.attributes, now⟩

/-- Removes an object. -/
def delete (ledger : Ledger) (identifier : String) : Except StoreFault (Object × Ledger) := do
  checked identifier
  let known ← ledger.fetch identifier
  return (known.object identifier, ledger.erase identifier)

/-- What is known of an object. -/
def head (ledger : Ledger) (identifier : String) : Except StoreFault Object := do
  checked identifier
  let known ← ledger.fetch identifier
  return known.object identifier

/-- An object with its content. -/
def read (ledger : Ledger) (identifier : String) : Except StoreFault Content := do
  checked identifier
  let known ← ledger.fetch identifier
  return ⟨known.object identifier, known.bytes⟩

def under (ledger : Ledger) (beginning : String) : List (String × Record) :=
  ledger.entries.filter fun e => beginsWith beginning e.1

def list (ledger : Ledger) (beginning : String) : List Object :=
  (ledger.under beginning).map fun e => e.2.object e.1

end Ledger

/-! ## Answers without blobs -/

def Content.unnumbered (content : Content) : Content :=
  { content with object := content.object.unnumbered }

namespace Store

/-- The answer without the numbers of blobs. -/
def ObjectReply.unnumbered : ObjectReply → ObjectReply
  | .object found => .object found.unnumbered
  | .content found => .content found.unnumbered
  | .objects found => .objects (found.map Object.unnumbered)

/-- What a call does to a ledger. -/
def ObjectCall.onLedger (call : ObjectCall) (ledger : Ledger) :
    Except StoreFault (ObjectReply × Ledger) :=
  match call with
  | .put identifier attributes body now =>
      (ledger.put identifier attributes body now).map (Prod.map .object id)
  | .putPieces identifier attributes pieces now =>
      (ledger.putPieces identifier attributes pieces now).map (Prod.map .object id)
  | .update identifier body now => (ledger.update identifier body now).map (Prod.map .object id)
  | .append identifier body now => (ledger.append identifier body now).map (Prod.map .object id)
  | .rename old new now => (ledger.rename old new now).map (Prod.map .object id)
  | .copy source destination attributes? now =>
      (ledger.copy source destination attributes? now).map (Prod.map .object id)
  | .delete identifier => (ledger.delete identifier).map (Prod.map .object id)
  | .head identifier => (ledger.head identifier).map fun object => (.object object, ledger)
  | .read identifier => (ledger.read identifier).map fun content => (.content content, ledger)
  | .list beginning => .ok (.objects (ledger.list beginning), ledger)

/-- What a ledger answers to calls that are made one after another. -/
def ledgerAnswers : List ObjectCall → Ledger → List (Except StoreFault ObjectReply)
  | [], _ => []
  | call :: rest, ledger =>
      match call.onLedger ledger with
      | .ok (reply, next) => .ok reply :: ledgerAnswers rest next
      | .error fault => .error fault :: ledgerAnswers rest ledger

end Store

end Depot
