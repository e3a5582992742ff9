import Depot.Text.Decimal
import Depot.Time.Instant

/-!
# Reading a clock text from the left

The small readers that the date formats share.  Each takes what it reads off
the front of the text and answers with the rest.
-/

namespace Depot.Time

set_option autoImplicit false

open Depot.Text

def digitsValue (digits : List Char) : Nat :=
  digits.foldl (fun value c => 10 * value + (digit? c).getD 0) 0

/-- Takes at least one and at most `most` digits. -/
def takeNumber? (most : Nat) (text : List Char) : Option (Nat × List Char) :=
  let digits := (text.take most).takeWhile isDigit
  if digits.isEmpty then none else some (digitsValue digits, text.drop digits.length)

/-- Takes exactly `count` digits. -/
def takeFixed? (count : Nat) (text : List Char) : Option (Nat × List Char) :=
  let digits := (text.take count).takeWhile isDigit
  if digits.length = count then some (digitsValue digits, text.drop count) else none

/-- Takes all digits that follow, at least one, when their value fits a signed number of 64 bits. -/
def takeAllDigits? (text : List Char) : Option (Nat × List Char) := do
  let value ← (natural maxSigned64 (text.takeWhile isDigit)).toOption
  return (value, text.dropWhile isDigit)

/-- Takes one given character. -/
def takeChar? (c : Char) : List Char → Option (List Char)
  | [] => none
  | d :: rest => if d = c then some rest else none

def skipBlanks (text : List Char) : List Char := trimStart isBlank text

/-- The text after its leading blanks, of which there is at least one. -/
def takeBlanks? : List Char → Option (List Char)
  | [] => none
  | c :: rest => if isBlank c then some (skipBlanks rest) else none

/-- The position in a list of names of the one that the text begins with, in any case. -/
def takeName? (names : List String) (text : List Char) : Option (Nat × List Char) :=
  let name := String.ofList ((text.take 3).map Char.toLower)
  match names.findIdx? (fun known => lower known == name) with
  | some i => some (i, text.drop 3)
  | none => none

end Depot.Time
