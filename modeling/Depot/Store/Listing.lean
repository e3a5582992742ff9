import Depot.Store.State
import Depot.Text.Cut
import Depot.Time.Format

/-!
# Listing objects

The objects whose identifiers begin with a text, in the order of their
identifiers, which is the order of their bytes.  The rows compare a beginning
only up to a NUL, so that a beginning with a NUL in it has nothing under it.  They compare
moments by their texts, which agrees with time for the years 0 to 9999; a signed
year comes before all of those.
-/

namespace Depot.Store

set_option autoImplicit false

open Depot.Text
open Depot.Time

def isUnder (beginning identifier : String) : Bool :=
  !beginning.toList.contains '\x00' && beginsWith beginning identifier

def rowsUnder (s : Store) (beginning : String) : List (String × Row) :=
  s.objects.entries.filter fun e => isUnder beginning e.1

def rowsAfter (s : Store) (beginning after : String) : List (String × Row) :=
  (s.rowsUnder beginning).filter fun e => decide (after < e.1)

def readRows (rows : List (String × Row)) : Except StoreFault (List Object) :=
  rows.mapM fun e => readRow e.1 e.2

/-- All objects under a beginning. -/
def list (beginning : String) : Action (List Object) := do
  requireDatabase
  readRows ((← get).rowsUnder beginning)

/-- At most `limit` objects under a beginning that come after an identifier; without one, after
the empty text. -/
def listPage (beginning : String) (after? : Option String) (limit : Nat) :
    Action (List Object) := do
  requireDatabase
  readRows (((← get).rowsAfter beginning (after?.getD "")).take limit)

/-- Whether there is an object under a beginning. -/
def anyUnder (beginning : String) : Action Bool := do
  requireDatabase
  return !((← get).rowsUnder beginning).isEmpty

/-- What follows the beginning in an identifier up to the first slash, when that is not empty. -/
def segmentAfter? (beginning identifier : String) : Option String :=
  let rest := identifier.toList.drop beginning.length
  match cutAt '/' (rest.takeWhile (· != '\x00')) with
  | some (segment, _) => if segment.isEmpty then none else some (String.ofList segment)
  | none => none

/-- The one of two moments whose text in a row comes first. -/
def firstInRows (a b : Instant) : Instant := if b.rowText < a.rowText then b else a

/-- Notes a moment for a segment, and keeps the first in rows when it has one. -/
def noteSegment (segments : Table String Instant) (segment : String) (moment : Instant) :
    Table String Instant :=
  match segments.find? segment with
  | some known => segments.insert segment (firstInRows known moment)
  | none => segments.insert segment moment

/-- The segments after a beginning in ascending order, each with the moment of change under it that
is first in rows. -/
def segmentsOf (rows : List (String × Row)) (beginning : String) : Table String Instant :=
  rows.foldl
    (fun segments e =>
      match segmentAfter? beginning e.1 with
      | some segment => noteSegment segments segment e.2.modified
      | none => segments)
    Table.empty

/-- The segments under a beginning. -/
def topLevel (beginning : String) : Action (List (String × Instant)) := do
  requireDatabase
  return (segmentsOf ((← get).rowsUnder beginning) beginning).entries

end Depot.Store
