import Depot.Time.Scan

/-!
# The mail form of a moment

Reading the form of mail headers: an optional name of the day, which must be
the right one, day, name of the month, year, clock time with optional seconds,
and a zone, which is an offset or one of a few names.  Names are read in any
case, runs of blanks count as one, and comments in parentheses may follow.
-/

namespace Depot.Time

set_option autoImplicit false

open Depot.Text

/-- Takes an optional name of a day with its comma. -/
def takeDayName? (text : List Char) : Option (Option Nat × List Char) :=
  match takeName? dayNames text with
  | some (i, rest) => (takeChar? ',' rest).map fun rest => (some i, rest)
  | none => some (none, text)

/-- The year that a number of two, three or more digits means. -/
def fullYear (digits year : Nat) : Nat :=
  if digits = 2 then if year ≤ 49 then 2000 + year else 1900 + year
  else if digits = 3 then 1900 + year
  else year

/-- Takes a year of at least two digits. -/
def takeMailYear? (text : List Char) : Option (Int × List Char) :=
  match takeAllDigits? text with
  | none => none
  | some (year, rest) =>
      let digits := text.length - rest.length
      if digits < 2 then none else some ((fullYear digits year : Nat), rest)

/-- Takes optional seconds after a colon. -/
def takeSeconds? (text : List Char) : Option (Nat × List Char) :=
  match skipBlanks text with
  | ':' :: rest => takeFixed? 2 rest
  | _ => some (0, text)

/-- The hours east of universal time that a zone's name stands for, the name in lower case. -/
def namedZone? (name : String) : Option Int :=
  if name = "gmt" ∨ name = "ut" ∨ name = "z" then some 0
  else if name = "edt" then some (-4)
  else if name = "est" ∨ name = "cdt" then some (-5)
  else if name = "cst" ∨ name = "mdt" then some (-6)
  else if name = "mst" ∨ name = "pdt" then some (-7)
  else if name = "pst" then some (-8)
  else if name.length = 1 ∧ name ≠ "j" then some 0
  else none

/-- Takes a zone, in seconds east of universal time. -/
def takeZone? (text : List Char) : Option (Int × List Char) :=
  let name := text.takeWhile Char.isAlpha
  if name.isEmpty then
    match text with
    | [] => none
    | sign :: rest => do
        let (hours, rest) ← takeFixed? 2 rest
        let (minutes, rest) ← takeFixed? 2 rest
        let offset : Int := hours * 3600 + minutes * 60
        if minutes ≤ 59 ∧ offset < 86400 then
          if sign = '+' then some (offset, rest)
          else if sign = '-' then some (-offset, rest)
          else none
        else none
  else
    (namedZone? (String.ofList (name.map Char.toLower))).map fun hours =>
      (hours * 3600, text.dropWhile Char.isAlpha)

/-- The text after the comment whose parentheses are open to `depth`; a backslash covers the
character after it. -/
def closeComment? (depth : Nat) : List Char → Option (List Char)
  | [] => none
  | '\\' :: _ :: rest => closeComment? depth rest
  | '(' :: rest => closeComment? (depth + 1) rest
  | ')' :: rest => if depth ≤ 1 then some rest else closeComment? (depth - 1) rest
  | _ :: rest => closeComment? depth rest

/-- Whether a text holds nothing but comments, each after any blanks; `fuel` bounds their number. -/
def onlyComments (fuel : Nat) (text : List Char) : Bool :=
  match fuel with
  | 0 => text.isEmpty
  | fuel + 1 =>
      if text.isEmpty then true
      else
        match skipBlanks text with
        | '(' :: rest =>
            match closeComment? 1 rest with
            | some rest => onlyComments fuel rest
            | none => false
        | _ => false

/-- The moment written in mail form, when the text is one and the moment exists both on the local
clock and in universal time. -/
def Instant.ofMail? (text : String) : Option Instant := do
  let (dayName, rest) ← takeDayName? (skipBlanks text.toList)
  let (day, rest) ← takeNumber? 2 (skipBlanks rest)
  let rest ← takeBlanks? rest
  let (month, rest) ← takeName? monthNames rest
  let rest ← takeBlanks? rest
  let (year, rest) ← takeMailYear? rest
  let rest ← takeBlanks? rest
  let (hour, rest) ← takeFixed? 2 rest
  let rest ← takeChar? ':' (skipBlanks rest)
  let (minute, rest) ← takeFixed? 2 (skipBlanks rest)
  let (second, rest) ← takeSeconds? rest
  let rest ← takeBlanks? rest
  let (offset, rest) ← takeZone? rest
  let date : Date := ⟨year, month + 1, day⟩
  let here ← Instant.ofCivil? ⟨date, hour, minute, second, 0⟩
  let moment := here.addSeconds (-offset)
  if (dayName.all (· == weekday date.dayNumber)) ∧ moment.isInCalendar ∧
      onlyComments rest.length rest then
    return moment
  else none

end Depot.Time
