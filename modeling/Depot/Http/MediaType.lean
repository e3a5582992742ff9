import Depot.Http.Headers
import Depot.Text.Cut

/-!
# Media types

A type and a subtype with parameters, as the content type of a message or of a
part of a form states it.  Names are compared in lower case; the value of a
parameter may stand between quotes.
-/

namespace Depot.Http

set_option autoImplicit false

open Depot.Text

/-- Whether a character may stand between quotes. -/
def isQuotedChar (c : Char) : Bool := 0x20 ≤ c.toNat && c != '\x7f'

/-- One parameter of a media type. -/
structure TypeParameter where
  /-- The name in lower case. -/
  name : String
  value : String
  deriving DecidableEq, Repr

/-- A media type. -/
structure MediaType where
  /-- The type in lower case. -/
  type : String
  /-- The subtype in lower case. -/
  subtype : String
  parameters : List TypeParameter
  /-- The text it was read from, with the names, and the value of a character set, in lower
  case. -/
  text : String

namespace MediaType

/-- Reads the spaces after a quoted value, which end at a semicolon or with the text. -/
def afterQuoted? (skipped : List Char) : List Char → Option (List Char × List Char)
  | [] => some (skipped.reverse, [])
  | ' ' :: rest => afterQuoted? (' ' :: skipped) rest
  | ';' :: rest => some ((';' :: skipped).reverse, rest)
  | _ => none

/-- Reads a value: its text, whether it is quoted, what stands between it and what follows, and
what follows. -/
def readValue? : List Char → Option (List Char × Bool × List Char × List Char)
  | '\x22' :: first :: rest => do
      let inner := rest.takeWhile (· != '\x22')
      if !isQuotedChar first || !inner.all isQuotedChar then none
      let rest ← match rest.dropWhile (· != '\x22') with
        | [] => none
        | _ :: rest => some rest
      let (gap, rest) ← afterQuoted? [] rest
      some (first :: inner, true, gap, rest)
  | ['\x22'] => none
  | text =>
      let value := text.takeWhile isNameChar
      match text.dropWhile isNameChar with
      | [] => some (value, false, [], [])
      | c :: rest => if c = ';' ∧ !value.isEmpty then some (value, false, [';'], rest) else none

/-- Reads parameters, each after any spaces; `fuel` bounds their number.  Answers with the
parameters and the text of all of them. -/
def readParameters? (fuel : Nat) (text : List Char) : Option (List TypeParameter × List Char) :=
  match fuel with
  | 0 => none
  | fuel + 1 =>
      let spaces := text.takeWhile (· == ' ')
      match text.dropWhile (· == ' ') with
      | [] => some ([], spaces)
      | text => do
          let name := text.takeWhile isNameChar
          let rest ← match text.dropWhile isNameChar with
            | [] => none
            | c :: rest => if c = '=' ∧ !name.isEmpty then some rest else none
          let (value, isQuoted, gap, rest) ← readValue? rest
          let (more, moreText) ← readParameters? fuel rest
          let lowName := name.map Char.toLower
          let isCharset := lowName == "charset".toList
          let lowValue := if isCharset then value.map Char.toLower else value
          let written := if isQuoted then ['\x22'] ++ lowValue ++ ['\x22'] else lowValue
          some (⟨String.ofList lowName, String.ofList value⟩ :: more,
            spaces ++ lowName ++ ['='] ++ written ++ gap ++ moreText)

/-- Reads a media type. -/
def ofText? (text : String) : Option MediaType := do
  let chars := text.toList
  let type := chars.takeWhile isNameChar
  let rest ← match chars.dropWhile isNameChar with
    | '/' :: rest => if type.isEmpty then none else some rest
    | _ => none
  let subtype := rest.takeWhile isNameChar
  let name := String.ofList ((type ++ ['/'] ++ subtype).map Char.toLower)
  let typeName := String.ofList (type.map Char.toLower)
  let subtypeName := String.ofList (subtype.map Char.toLower)
  match rest.dropWhile isNameChar with
  | [] => return ⟨typeName, subtypeName, [], name⟩
  | ';' :: rest =>
      if subtype.isEmpty then none
      else
        let (parameters, written) ← readParameters? (rest.length + 1) rest
        if parameters.isEmpty then return ⟨typeName, subtypeName, [], name⟩
        else return ⟨typeName, subtypeName, parameters, name ++ ";" ++ String.ofList written⟩
  | _ => none

/-- The subtype without its structure suffix, which a plus sign joins to it. -/
def baseSubtype (m : MediaType) : String :=
  let reversed := m.subtype.toList.reverse
  match cutAt '+' reversed with
  | some (_, base) => if base.isEmpty then m.subtype else String.ofList base.reverse
  | none => m.subtype

def parameter? (m : MediaType) (name : String) : Option String :=
  (m.parameters.find? (·.name == name)).map TypeParameter.value

/-- The boundary between the parts of a form, when a content type announces a form with one. -/
def formBoundary? (contentType : String) : Option String := do
  let m ← ofText? contentType
  if m.type == "multipart" && m.baseSubtype == "form-data" then m.parameter? "boundary" else none

end MediaType

end Depot.Http
