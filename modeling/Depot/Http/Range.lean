import Depot.Text.Blank
import Depot.Text.Decimal

/-!
# Byte ranges

The range of an object that a request asks for.  A request can name the first
and the last byte, the first byte alone, or the number of bytes at the end; the
answer is a range within the object, that the request is to be read as one for
the whole, or that no byte of the object is asked for.
-/

namespace Depot.Http

set_option autoImplicit false

open Depot.Text

/-- The bytes from `first` to `last`, both included. -/
structure ByteRange where
  first : Nat
  last : Nat
  first_le_last : first ≤ last := by omega
  deriving DecidableEq, Repr

def ByteRange.length (r : ByteRange) : Nat := r.last - r.first + 1

/-- What a range header asks of an object. -/
inductive RangeRequest where
  /-- The header says nothing that is understood here. -/
  | whole
  /-- These bytes of the object. -/
  | part (range : ByteRange)
  /-- No byte of the object. -/
  | unsatisfiable
  deriving DecidableEq, Repr

/-- Reads the number of a range. -/
def rangeNumber? (text : List Char) : Option Nat := (natural max64 (trimBlank text)).toOption

/-- The bytes of an object of `size` from `first` on, up to `last` when it is given. -/
def rangeFrom (size first : Nat) (last? : Option Nat) : RangeRequest :=
  let last := last?.getD (size - 1)
  if h : first < size ∧ first ≤ last then
    if last < size then .part { first := first, last := last }
    else .part { first := first, last := size - 1 }
  else .unsatisfiable

/-- The last `count` bytes of an object of `size`, or all when it has fewer. -/
def rangeAtEnd (size count : Nat) : RangeRequest :=
  if h : 0 < count ∧ 0 < size then .part { first := size - count, last := size - 1 }
  else .unsatisfiable

/-- What the value of a range header asks of an object of `size` bytes. -/
def RangeRequest.ofText (text : String) (size : Nat) : RangeRequest :=
  match afterLead? "bytes=".toList (trimBlank text.toList) with
  | none => .whole
  | some ranges =>
      if ranges.contains ',' then .whole
      else
        match cutAt '-' ranges with
        | none => .whole
        | some (firstText, lastText) =>
            if (trimBlank firstText).isEmpty then
              match rangeNumber? lastText with
              | some count => rangeAtEnd size count
              | none => .unsatisfiable
            else
              match rangeNumber? firstText with
              | none => .unsatisfiable
              | some first =>
                  if (trimBlank lastText).isEmpty then rangeFrom size first none
                  else
                    match rangeNumber? lastText with
                    | some last => rangeFrom size first (some last)
                    | none => .unsatisfiable

end Depot.Http
