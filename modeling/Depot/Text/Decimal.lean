import Depot.Text.Blank

/-!
# Decimal numerals

Reading and writing whole numbers.  A numeral is an optional sign and at least
one digit, and nothing else; every reader names the largest value it takes, and
tells the four ways a numeral can fail apart.

When a numeral has both a bad digit and too many digits, the first fault from
the left decides: a digit that is read before the value overflows is fine, and
an overflow ends the reading.
-/

namespace Depot.Text

set_option autoImplicit false

/-- Why a numeral could not be read. -/
inductive NumeralFault where
  | empty
  | badDigit
  | tooLarge
  | tooSmall
  deriving DecidableEq, Repr

/-- The wording of a fault in a numeral. -/
def NumeralFault.message : NumeralFault → String
  | .empty => "cannot parse integer from empty string"
  | .badDigit => "invalid digit found in string"
  | .tooLarge => "number too large to fit in target type"
  | .tooSmall => "number too small to fit in target type"

def digit? (c : Char) : Option Nat :=
  if '0' ≤ c ∧ c ≤ '9' then some (c.toNat - '0'.toNat) else none

def isDigit (c : Char) : Bool := (digit? c).isSome

/-- Reads digits onto `value`, refusing to pass `limit`. -/
def digitsFrom (limit value : Nat) : List Char → Except NumeralFault Nat
  | [] => .ok value
  | c :: rest =>
      match digit? c with
      | none => .error .badDigit
      | some d =>
          if 10 * value + d ≤ limit then digitsFrom limit (10 * value + d) rest
          else .error .tooLarge

/-- Reads an unsigned numeral of at most `limit`; a leading plus sign is allowed. -/
def natural (limit : Nat) : List Char → Except NumeralFault Nat
  | [] => .error .empty
  | ['+'] => .error .badDigit
  | '+' :: digits => digitsFrom limit 0 digits
  | digits => digitsFrom limit 0 digits

/-- Reads a signed numeral between `-(limit + 1)` and `limit`. -/
def integer (limit : Nat) : List Char → Except NumeralFault Int
  | [] => .error .empty
  | ['+'] => .error .badDigit
  | ['-'] => .error .badDigit
  | '+' :: digits => (digitsFrom limit 0 digits).map Int.ofNat
  | '-' :: digits =>
      match digitsFrom (limit + 1) 0 digits with
      | .ok n => .ok (-(Int.ofNat n))
      | .error .tooLarge => .error .tooSmall
      | .error fault => .error fault
  | digits => (digitsFrom limit 0 digits).map Int.ofNat

def max16 : Nat := 65535

def max64 : Nat := 18446744073709551615

def maxSigned64 : Nat := 9223372036854775807

/-- Reads an unsigned numeral of 64 bits. -/
def natural64? (text : String) : Option Nat := (natural max64 text.toList).toOption

/-- Reads a signed numeral of 64 bits. -/
def integer64? (text : String) : Option Int := (integer maxSigned64 text.toList).toOption

def decimal (n : Nat) : String := String.ofList (Nat.toDigits 10 n)

/-- A number in decimal, with a minus sign when it is negative. -/
def signedDecimal : Int → String
  | .ofNat n => decimal n
  | .negSucc n => "-" ++ decimal (n + 1)

/-- The decimal digits of a number, filled up with zeros on the left to `width`. -/
def padded (width n : Nat) : String :=
  let digits := Nat.toDigits 10 n
  String.ofList (List.replicate (width - digits.length) '0' ++ digits)

end Depot.Text
