import Depot.Text.Cut
import Depot.Text.Utf8

/-!
# Headers

The header lines of a message in the order in which they were added.  A name
may occur more than once.  Names are kept in lower case, values as bytes,
because a value need not be text.
-/

namespace Depot.Http

set_option autoImplicit false

open Depot.Text

abbrev FieldValue := ByteArray

/-- Whether a byte may stand in a value that is text: visible ASCII, the space and the tab. -/
def isTextByte (b : UInt8) : Bool := b == 9 || (0x20 ≤ b && b < 0x7F)

/-- The text of a value, when all its bytes are visible ASCII, spaces and tabs. -/
def valueText? (value : FieldValue) : Option String :=
  if value.data.toList.all isTextByte then
    some (String.ofList (value.data.toList.map Char.ofUInt8))
  else none

/-- Whether a byte may be sent in a value: no control but the tab. -/
def isValueByte (b : UInt8) : Bool := b == 9 || (0x20 ≤ b && b != 0x7F)

/-- A string as the value of a header line, when it has no controls but tabs. -/
def fieldValue? (text : String) : Option FieldValue :=
  if (bytes text).all isValueByte then some text.toUTF8 else none

/-- The marks that a header name may have beside letters and digits. -/
def nameMarks : List Char := "!#$%&'*+-.^_`|~".toList

/-- Whether a character may stand in a header name. -/
def isNameChar (c : Char) : Bool := c.isAlphanum || nameMarks.contains c

def maxNameLength : Nat := 65535

/-- A string as a header name, in lower case, when it is one. -/
def fieldName? (text : String) : Option String :=
  if !text.isEmpty && text.length ≤ maxNameLength && text.toList.all isNameChar then
    some (lower text)
  else none

/-- Header lines in order. -/
structure Headers where
  lines : List (String × FieldValue)
  deriving Inhabited

namespace Headers

def empty : Headers := ⟨[]⟩

def getAll (h : Headers) (name : String) : List FieldValue :=
  (h.lines.filter (·.1 == name)).map Prod.snd

def get? (h : Headers) (name : String) : Option FieldValue :=
  (h.lines.find? (·.1 == name)).map Prod.snd

/-- The first value of a name, when it is text. -/
def text? (h : Headers) (name : String) : Option String := (h.get? name).bind valueText?

def has (h : Headers) (name : String) : Bool := h.lines.any (·.1 == name)

def erase (h : Headers) (name : String) : Headers := ⟨h.lines.filter (·.1 != name)⟩

def append (h : Headers) (name : String) (value : FieldValue) : Headers :=
  ⟨h.lines ++ [(name, value)]⟩

/-- Puts one value in the place of all values of a name. -/
def insert (h : Headers) (name : String) (value : FieldValue) : Headers :=
  (h.erase name).append name value

/-- Puts a string in the place of all values of a name; a string that cannot be sent changes
nothing. -/
def insertText (h : Headers) (name : String) (text : String) : Headers :=
  match fieldValue? text with
  | some value => h.insert name value
  | none => h

/-- The names that occur, each once, in ascending order. -/
def names (h : Headers) : List String :=
  ((h.lines.map Prod.fst).mergeSort (fun a b => decide (a ≤ b))).eraseDups

end Headers

end Depot.Http
