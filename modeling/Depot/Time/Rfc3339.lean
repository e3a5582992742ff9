import Depot.Time.Scan

/-!
# The hyphenated form of a moment

Reading a moment written with hyphens and colons, an optional fraction of a
second and a zone, which is `Z` or an offset of hours and minutes.  Programs are
given moments in this form; the server itself reads none.
-/

namespace Depot.Time

set_option autoImplicit false

open Depot.Text

/-- Takes an optional fraction, in nanoseconds; places after the ninth are dropped. -/
def takeFraction? : List Char → Option (Nat × List Char)
  | '.' :: rest =>
      let digits := rest.takeWhile isDigit
      if digits.isEmpty then none
      else
        some (digitsValue ((digits ++ List.replicate 9 '0').take 9), rest.dropWhile isDigit)
  | text => some (0, text)

/-- Reads a zone as seconds east of universal time; nothing may follow it. -/
def zoneOffset? : List Char → Option Int
  | ['Z'] => some 0
  | ['z'] => some 0
  | sign :: rest => do
      let (hours, rest) ← takeFixed? 2 rest
      let rest ← takeChar? ':' rest
      let (minutes, rest) ← takeFixed? 2 rest
      if rest.isEmpty ∧ hours ≤ 23 ∧ minutes ≤ 59 then
        let offset : Int := hours * 3600 + minutes * 60
        if sign = '+' then some offset else if sign = '-' then some (-offset) else none
      else none
  | [] => none

/-- The moment written with hyphens and colons, when the text is one and the moment exists. -/
def Instant.ofRfc3339? (text : String) : Option Instant := do
  let (year, rest) ← takeFixed? 4 text.toList
  let rest ← takeChar? '-' rest
  let (month, rest) ← takeFixed? 2 rest
  let rest ← takeChar? '-' rest
  let (day, rest) ← takeFixed? 2 rest
  let (hour, rest) ← takeFixed? 2 (rest.drop 1)
  let rest ← takeChar? ':' rest
  let (minute, rest) ← takeFixed? 2 rest
  let rest ← takeChar? ':' rest
  let (second, rest) ← takeFixed? 2 rest
  let (nano, rest) ← takeFraction? rest
  let offset ← zoneOffset? rest
  let here ← Instant.ofCivil? ⟨⟨year, month, day⟩, hour, minute, second, nano⟩
  return here.addSeconds (-offset)

end Depot.Time
