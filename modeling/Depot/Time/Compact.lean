import Depot.Time.Scan

/-!
# The compact form of a moment

Reading a date without hyphens and a clock time without colons, joined by `T`
and closed by `Z`.  Blanks may stand before each number, a number may have
fewer digits than its width, and a sign before the year makes it take every
digit that follows.
-/

namespace Depot.Time

set_option autoImplicit false

open Depot.Text

/-- Takes a year of one to four digits, or a signed one of any number of digits. -/
def takeYear? (text : List Char) : Option (Int × List Char) :=
  match skipBlanks text with
  | '-' :: rest => (takeAllDigits? rest).map fun (n, rest) => (-(n : Int), rest)
  | '+' :: rest => (takeAllDigits? rest).map fun (n, rest) => ((n : Int), rest)
  | rest => (takeNumber? 4 rest).map fun (n, rest) => ((n : Int), rest)

/-- Takes a number of one or two digits after any blanks. -/
def takePair? (text : List Char) : Option (Nat × List Char) := takeNumber? 2 (skipBlanks text)

/-- The moment written in compact form, when the text is one and the moment exists. -/
def Instant.ofCompact? (text : String) : Option Instant := do
  let (year, rest) ← takeYear? text.toList
  let (month, rest) ← takePair? rest
  let (day, rest) ← takePair? rest
  let rest ← takeChar? 'T' rest
  let (hour, rest) ← takePair? rest
  let (minute, rest) ← takePair? rest
  let (second, rest) ← takePair? rest
  let rest ← takeChar? 'Z' rest
  if rest.isEmpty then Instant.ofCivil? ⟨⟨year, month, day⟩, hour, minute, second, 0⟩ else none

end Depot.Time
