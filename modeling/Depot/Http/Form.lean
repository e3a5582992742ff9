import Depot.Http.Body
import Depot.Http.MediaType
import Depot.Text.Quoted

/-!
# Forms

The fields of a form whose parts stand between boundary lines.  Text before the
first boundary and after the closing one is skipped.  A field has header lines,
of which the name and the content type are read, and any bytes as content.

A form is read while its body comes.  The reader looks at all that has come, asks
for more only when it needs more, and leaves what comes after the closing
boundary unread (`Form.ofBursts`).  How the chunks of a body arrive is the
transport's affair; when all of them have come before the first look, a failure
of the body is met before any field (`Form.ofBody`).
-/

namespace Depot.Http

set_option autoImplicit false

open Depot.Text

/-- Why a form could not be read. -/
inductive FormFault where
  /-- The body failed. -/
  | stream
  /-- The body is larger than allowed. -/
  | tooLarge
  /-- The form ends outside a field. -/
  | incomplete
  /-- Neither a field nor the end of the form follows a boundary. -/
  | misplaced
  /-- The header lines of a field are malformed. -/
  | headers
  /-- A header line of a field has a name that is too long. -/
  | headerName (name : String)
  /-- The form ends inside a field of this name. -/
  | openField (name? : Option String)
  deriving DecidableEq, Repr

/-- Whether a form of which some has come may go on without the fault. -/
def FormFault.isOpen : FormFault → Bool
  | .incomplete | .openField _ => true
  | _ => false

/-- The wording of a fault in a form. -/
def FormFault.message : FormFault → String
  | .stream => "failed to read stream"
  | .tooLarge => "Request payload is too large"
  | .incomplete | .misplaced => "incomplete multipart stream"
  | .headers => "failed to read headers"
  | .headerName name => "failed to decode field's raw header name: " ++ quoted name
  | .openField name? =>
      "field " ++ quoted (name?.getD "<unknown>") ++ " received with incomplete data"

/-- A field of a form. -/
structure FormField where
  name? : Option String
  contentType? : Option String
  content : ByteArray

namespace Form

/-- A way to read forms: the fields of the form with a boundary in a body of limited size. -/
abbrev Reader := String → Nat → Body → Except FormFault (List FormField)

/-! ## Header lines of a field -/

def lineEnd : List UInt8 := [13, 10]

def isLineBlank (b : UInt8) : Bool := b == 32 || b == 9

def maxFieldHeaders : Nat := 32

/-- Reads one header line after its name: the value without blanks at its ends. -/
def readFieldValue? (text : List UInt8) : Option (List UInt8 × List UInt8) :=
  let value := trim isLineBlank (text.takeWhile isValueByte)
  match text.dropWhile isValueByte with
  | 13 :: 10 :: rest => some (value, rest)
  | 10 :: rest => some (value, rest)
  | _ => none

/-- Reads header lines up to an empty one; `room` bounds their number, and `lines` holds what was
read, last line first. -/
def readFieldLines? (room : Nat) (lines : List (String × FieldValue)) (text : List UInt8) :
    Option (List (String × FieldValue)) :=
  match text with
  | 13 :: 10 :: _ => some lines.reverse
  | 10 :: _ => some lines.reverse
  | text =>
      match room with
      | 0 => none
      | room + 1 => do
          let name := text.takeWhile fun b => b < 0x80 && isNameChar (Char.ofUInt8 b)
          let rest ← match text.drop name.length with
            | 58 :: rest => if name.isEmpty then none else some rest
            | _ => none
          let (value, rest) ← readFieldValue? rest
          let line := (String.ofList (name.map Char.ofUInt8), byteString value)
          readFieldLines? room (line :: lines) rest

/-- Header lines by name, where a later line takes the place of an earlier one. -/
def gatherLines (lines : List (String × FieldValue)) : Except FormFault Headers :=
  lines.foldlM
    (fun headers line =>
      match fieldName? line.1 with
      | some name => .ok (headers.insert name line.2)
      | none => .error (.headerName line.1))
    Headers.empty

/-- The header lines of a field, from the text before the empty line that ends them. -/
def readFieldHeaders (block : List UInt8) : Except FormFault Headers :=
  match readFieldLines? maxFieldHeaders [] (block ++ lineEnd ++ lineEnd) with
  | none => .error .headers
  | some lines => gatherLines lines

/-- Whether a byte is a blank of a disposition. -/
def isDispositionBlank (b : UInt8) : Bool := b == 32 || (9 ≤ b && b ≤ 10) || (12 ≤ b && b ≤ 13)

/-- Whether an attribute may follow a byte. -/
def endsAttribute (b : UInt8) : Bool := b == 59 || isDispositionBlank b

/-- What follows the first `name` before which there is nothing, a blank or a semicolon.  The search
begins anew after each other one, as if nothing stood before the rest; `before?` is the byte
before the text. -/
def afterNameWord? (before? : Option UInt8) : List UInt8 → Option (List UInt8)
  | [] => none
  | 110 :: 97 :: 109 :: 101 :: rest =>
      if before?.all endsAttribute then some rest else afterNameWord? none rest
  | b :: rest => afterNameWord? (some b) rest

/-- Reads a name up to the closing quote, where a quote that a backslash precedes stands for
itself; `seen` holds what was read, last byte first. -/
def quotedName? (seen : List UInt8) : List UInt8 → Option (List UInt8)
  | [] => none
  | 34 :: _ => some seen.reverse
  | 92 :: 34 :: rest => quotedName? (34 :: seen) rest
  | b :: rest => quotedName? (b :: seen) rest

/-- The name in a disposition, between quotes or up to a semicolon or space.  Blanks may stand on
both sides of the equals sign. -/
def dispositionName? (text : List UInt8) : Option (List UInt8) := do
  let rest ← afterNameWord? none text
  match rest.dropWhile isDispositionBlank with
  | 61 :: value =>
      match value.dropWhile isDispositionBlank with
      | 34 :: inner => quotedName? [] inner
      | bare => some (bare.takeWhile fun b => b != 59 && b != 32)
  | _ => none

/-- The name that a field's header lines give it. -/
def nameOf? (headers : Headers) : Option String := do
  let disposition ← headers.get? "content-disposition"
  let name ← dispositionName? disposition.data.toList
  ofBytes? name

/-- The content type that a field's header lines give it, when it is a media type. -/
def typeOf? (headers : Headers) : Option String :=
  ((headers.text? "content-type").bind MediaType.ofText?).map MediaType.text

/-! ## Fields between boundaries -/

/-- Reads the fields that follow a boundary; `fuel` bounds their number. -/
def readFields (fuel : Nat) (boundary : List UInt8) (fields : List FormField)
    (text : List UInt8) : Except FormFault (List FormField) :=
  match fuel with
  | 0 => .error .incomplete
  | fuel + 1 =>
      match text with
      | 45 :: 45 :: _ => .ok fields.reverse
      | text =>
          match text.dropWhile isLineBlank with
          | 13 :: 10 :: rest =>
              match cutAtWord (lineEnd ++ lineEnd) rest with
              | none => .error .incomplete
              | some (block, rest) =>
                  match readFieldHeaders block with
                  | .error fault => .error fault
                  | .ok headers =>
                      let name? := nameOf? headers
                      match cutAtWord (lineEnd ++ boundary) rest with
                      | none => .error (.openField name?)
                      | some (content, rest) =>
                          let field : FormField :=
                            ⟨name?, typeOf? headers, byteString content⟩
                          readFields fuel boundary (field :: fields) rest
          | [] | [_] => .error .incomplete
          | _ => .error .misplaced

/-- The fields of a form with a boundary, which may be empty. -/
def read (boundary : String) (content : ByteArray) : Except FormFault (List FormField) :=
  let line := bytes ("--" ++ boundary)
  let text := content.data.toList
  match cutAtWord line text with
  | none => .error .incomplete
  | some (_, rest) => readFields (text.length + 1) line [] rest

/-! ## Forms in bodies that are still coming -/

/-- Reads a form from the bursts in which a body comes, after the bytes that have come.  Each burst
is looked through before the next one is awaited, and none is awaited once the form is closed. -/
def readBursts (boundary : String) (limit : Nat) (seen : ByteArray) :
    List Body → Except FormFault (List FormField)
  | [] => read boundary seen
  | burst :: later =>
      match burst.readWithin limit seen with
      | .tooLarge => .error .tooLarge
      | .failed _ => .error .stream
      | .within seen =>
          match read boundary seen with
          | .ok fields => .ok fields
          | .error fault =>
              if fault.isOpen then readBursts boundary limit seen later else .error fault

/-- The fields of the form in a body of at most `limit` bytes, given the bursts that bodies come
in. -/
def ofBursts (bursts : Body → List Body) : Reader := fun boundary limit body =>
  readBursts boundary limit ByteArray.empty (bursts body)

/-- The fields of the form in a body whose chunks have all come. -/
def ofBody : Reader := ofBursts fun body => [body]

end Form

end Depot.Http
