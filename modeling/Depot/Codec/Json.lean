import Depot.Text.Decimal
import Depot.Codec.Hex

/-!
# JSON

The values of a JSON text, a strict reader for them, and the writing of the
objects that the native protocol answers with.

A string can be written with escapes that name half of a surrogate pair.  It is
well formed and stands for no text, so the text of a string is optional: a
reader of the value decides whether it needs it.
-/

namespace Depot.Json

set_option autoImplicit false

open Depot.Text

/-! ## Values -/

/-- The value of a JSON text; numbers keep their spelling, and objects keep all their fields in
order. -/
inductive Value where
  | null
  | bool (value : Bool)
  | number (literal : String)
  | string (text? : Option String)
  | array (items : List Value)
  | object (fields : List (Option String × Value))

/-! ## Reading -/

def isSpace (c : Char) : Bool := c == ' ' || c == '\t' || c == '\n' || c == '\r'

def skipSpace (text : List Char) : List Char := trimStart isSpace text

/-- One element of a string: a character, or a code unit named by an escape. -/
inductive Unit16 where
  | char (c : Char)
  | unit (code : Nat)

/-- The character that a single-letter escape stands for. -/
def simpleEscape? (c : Char) : Option Char :=
  if c = '\x22' then some '\x22'
  else if c = '\\' then some '\\'
  else if c = '/' then some '/'
  else if c = 'b' then some '\x08'
  else if c = 'f' then some '\x0c'
  else if c = 'n' then some '\n'
  else if c = 'r' then some '\r'
  else if c = 't' then some '\t'
  else none

/-- The number written in four hexadecimal digits. -/
def fourDigits? (a b c d : Char) : Option Nat := do
  let a ← Hex.value? a
  let b ← Hex.value? b
  let c ← Hex.value? c
  let d ← Hex.value? d
  return ((a.toNat * 16 + b.toNat) * 16 + c.toNat) * 16 + d.toNat

/-- Reads the inside of a string up to its closing quote, last element first onto `read`. -/
def stringUnits (read : List Unit16) : List Char → Option (List Unit16 × List Char)
  | [] => none
  | '\x22' :: rest => some (read.reverse, rest)
  | '\\' :: 'u' :: a :: b :: c :: d :: rest =>
      match fourDigits? a b c d with
      | some code => stringUnits (.unit code :: read) rest
      | none => none
  | '\\' :: c :: rest =>
      match simpleEscape? c with
      | some c => stringUnits (.char c :: read) rest
      | none => none
  | c :: rest => if c.toNat < 0x20 ∨ c = '\\' then none else stringUnits (.char c :: read) rest

/-- Whether a code unit is the first half of a pair. -/
def isHighHalf (code : Nat) : Bool := 0xD800 ≤ code && code ≤ 0xDBFF

/-- Whether a code unit is the second half of a pair. -/
def isLowHalf (code : Nat) : Bool := 0xDC00 ≤ code && code ≤ 0xDFFF

/-- The characters of a string, when every half of a pair has the other half beside it. -/
def unitsText? : List Unit16 → Option (List Char)
  | [] => some []
  | .char c :: rest => (unitsText? rest).map (c :: ·)
  | .unit high :: .unit low :: rest =>
      if isHighHalf high then
        if isLowHalf low then
          (unitsText? rest).map
            (Char.ofNat (0x10000 + (high - 0xD800) * 1024 + (low - 0xDC00)) :: ·)
        else none
      else if isLowHalf high then none
      else (unitsText? (.unit low :: rest)).map (Char.ofNat high :: ·)
  | .unit code :: rest =>
      if isHighHalf code || isLowHalf code then none
      else (unitsText? rest).map (Char.ofNat code :: ·)

/-- Reads a string after its opening quote. -/
def readString (text : List Char) : Option (Option String × List Char) :=
  (stringUnits [] text).map fun (units, rest) => ((unitsText? units).map String.ofList, rest)

/-- Takes digits, at least one. -/
def takeDigits? (text : List Char) : Option (List Char × List Char) :=
  let digits := text.takeWhile isDigit
  if digits.isEmpty then none else some (digits, text.dropWhile isDigit)

/-- Takes the whole part of a number: zero alone or digits that begin with another. -/
def takeWhole? : List Char → Option (List Char × List Char)
  | '0' :: rest => if (rest.take 1).any isDigit then none else some (['0'], rest)
  | text => takeDigits? text

/-- Takes an optional fraction. -/
def takeFraction? : List Char → Option (List Char × List Char)
  | '.' :: rest => (takeDigits? rest).map fun (digits, rest) => ('.' :: digits, rest)
  | text => some ([], text)

/-- Takes an optional exponent. -/
def takeExponent? : List Char → Option (List Char × List Char)
  | e :: rest =>
      if e = 'e' ∨ e = 'E' then
        match rest with
        | '+' :: rest => (takeDigits? rest).map fun (digits, rest) => (e :: '+' :: digits, rest)
        | '-' :: rest => (takeDigits? rest).map fun (digits, rest) => (e :: '-' :: digits, rest)
        | rest => (takeDigits? rest).map fun (digits, rest) => (e :: digits, rest)
      else some ([], e :: rest)
  | [] => some ([], [])

/-- Reads a number. -/
def readNumber (text : List Char) : Option (String × List Char) := do
  let (sign, rest) :=
    match text with
    | '-' :: rest => (['-'], rest)
    | rest => ([], rest)
  let (whole, rest) ← takeWhole? rest
  let (fraction, rest) ← takeFraction? rest
  let (exponent, rest) ← takeExponent? rest
  return (String.ofList (sign ++ whole ++ fraction ++ exponent), rest)

mutual

/-- Reads a value after any blanks; `fuel` bounds the steps and is never short of the text. -/
def readValue (fuel : Nat) (text : List Char) : Option (Value × List Char) :=
  match fuel with
  | 0 => none
  | fuel + 1 =>
      match skipSpace text with
      | [] => none
      | 'n' :: 'u' :: 'l' :: 'l' :: rest => some (.null, rest)
      | 't' :: 'r' :: 'u' :: 'e' :: rest => some (.bool true, rest)
      | 'f' :: 'a' :: 'l' :: 's' :: 'e' :: rest => some (.bool false, rest)
      | '\x22' :: rest => (readString rest).map fun (text?, rest) => (.string text?, rest)
      | '[' :: rest =>
          match skipSpace rest with
          | ']' :: rest => some (.array [], rest)
          | rest => (readItems fuel rest).map fun (items, rest) => (.array items, rest)
      | '\x7b' :: rest =>
          match skipSpace rest with
          | '\x7d' :: rest => some (.object [], rest)
          | rest => (readFields fuel rest).map fun (fields, rest) => (.object fields, rest)
      | rest => (readNumber rest).map fun (literal, rest) => (.number literal, rest)

/-- Reads the items of an array up to its closing bracket. -/
def readItems (fuel : Nat) (text : List Char) : Option (List Value × List Char) :=
  match fuel with
  | 0 => none
  | fuel + 1 =>
      match readValue fuel text with
      | none => none
      | some (item, rest) =>
          match skipSpace rest with
          | ']' :: rest => some ([item], rest)
          | ',' :: rest => (readItems fuel rest).map fun (items, rest) => (item :: items, rest)
          | _ => none

/-- Reads the fields of an object up to its closing brace. -/
def readFields (fuel : Nat) (text : List Char) :
    Option (List (Option String × Value) × List Char) :=
  match fuel with
  | 0 => none
  | fuel + 1 =>
      match skipSpace text with
      | '\x22' :: rest =>
          match readString rest with
          | none => none
          | some (name, rest) =>
              match skipSpace rest with
              | ':' :: rest =>
                  match readValue fuel rest with
                  | none => none
                  | some (value, rest) =>
                      match skipSpace rest with
                      | '\x7d' :: rest => some ([(name, value)], rest)
                      | ',' :: rest =>
                          (readFields fuel rest).map fun (fields, rest) =>
                            ((name, value) :: fields, rest)
                      | _ => none
              | _ => none
      | _ => none

end

/-- The value of a whole text. -/
def read? (text : String) : Option Value :=
  let chars := text.toList
  match readValue (2 * chars.length + 2) chars with
  | some (value, rest) => if (skipSpace rest).isEmpty then some value else none
  | none => none

/-- The fields of an object whose names and values are all text, in order: how metadata that is
written beside a row is read. -/
def textFields? : Value → Option (List (String × String))
  | .object fields =>
      fields.mapM fun
        | (some name, .string (some text)) => some (name, text)
        | _ => none
  | _ => none

/-! ## Writing -/

/-- A character as it stands in a string: controls and the two marks are escaped. -/
def quotedChar (c : Char) : List Char :=
  if c = '\x22' then ['\\', '\x22']
  else if c = '\\' then ['\\', '\\']
  else if c = '\x08' then ['\\', 'b']
  else if c = '\x0c' then ['\\', 'f']
  else if c = '\n' then ['\\', 'n']
  else if c = '\r' then ['\\', 'r']
  else if c = '\t' then ['\\', 't']
  else if c.toNat < 0x20 then
    ['\\', 'u', '0', '0', Hex.digit (c.toNat / 16).toUInt8, Hex.digit (c.toNat % 16).toUInt8]
  else [c]

def quote (text : String) : String :=
  String.ofList (['\x22'] ++ text.toList.flatMap quotedChar ++ ['\x22'])

/-- An object of already written values, without blanks. -/
def objectText (fields : List (String × String)) : String :=
  "\x7b" ++ joined "," (fields.map fun (name, value) => quote name ++ ":" ++ value) ++ "\x7d"

def boolText (b : Bool) : String := if b then "true" else "false"

end Depot.Json
