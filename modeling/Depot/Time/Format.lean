import Depot.Text.Decimal
import Depot.Time.Instant

/-!
# Written forms of a moment

Five forms: with milliseconds for documents, with the shortest fraction for
reports and, with an offset, for rows, the compact form that requests are
signed with, and the form of HTTP headers.  A year outside 0 to 9999 has a
sign.
-/

namespace Depot.Time

set_option autoImplicit false

open Depot.Text

/-- A year in at least four digits, signed when it is negative or has more of them. -/
def yearText : Int → String
  | .ofNat n => if n ≤ 9999 then padded 4 n else "+" ++ padded 4 n
  | .negSucc n => "-" ++ padded 4 (n + 1)

namespace Instant

/-- Date and clock time with hyphens and colons, without fraction and zone. -/
def clockText (t : Instant) : String :=
  let c := t.civil
  yearText c.date.year ++ "-" ++ padded 2 c.date.month ++ "-" ++ padded 2 c.date.day ++ "T" ++
    padded 2 c.hour ++ ":" ++ padded 2 c.minute ++ ":" ++ padded 2 c.second

/-- A moment with three places of seconds, the rest cut off. -/
def timestamp (t : Instant) : String :=
  t.clockText ++ "." ++ padded 3 (t.civil.nano / 1000000) ++ "Z"

/-- The fraction of a second with its point, in no, three, six or nine places, as many as it
needs. -/
def fractionText (t : Instant) : String :=
  let nano := t.civil.nano
  if nano = 0 then ""
  else if nano % 1000000 = 0 then "." ++ padded 3 (nano / 1000000)
  else if nano % 1000 = 0 then "." ++ padded 6 (nano / 1000)
  else "." ++ padded 9 nano

/-- A moment with the shortest fraction. -/
def shortest (t : Instant) : String := t.clockText ++ t.fractionText ++ "Z"

/-- A moment with the shortest fraction and the offset of universal time, as rows hold it. -/
def rowText (t : Instant) : String := t.clockText ++ t.fractionText ++ "+00:00"

/-- The date of a moment without hyphens, as it stands in a credential scope. -/
def compactDate (t : Instant) : String :=
  let c := t.civil
  yearText c.date.year ++ padded 2 c.date.month ++ padded 2 c.date.day

/-- A moment without hyphens and colons, as requests are signed with. -/
def compact (t : Instant) : String :=
  let c := t.civil
  t.compactDate ++ "T" ++ padded 2 c.hour ++ padded 2 c.minute ++ padded 2 c.second ++ "Z"

def dayName (t : Instant) : String := dayNames.getD (weekday t.dayNumber) ""

/-- A moment in a mail header with a zone, and as HTTP headers write it with `GMT`. -/
def mailText (zone : String) (t : Instant) : String :=
  let c := t.civil
  t.dayName ++ ", " ++ padded 2 c.date.day ++ " " ++ monthNames.getD (c.date.month - 1) "" ++ " " ++
    yearText c.date.year ++ " " ++ padded 2 c.hour ++ ":" ++ padded 2 c.minute ++ ":" ++
    padded 2 c.second ++ " " ++ zone

/-- A moment as HTTP headers write it. -/
def httpDate (t : Instant) : String := t.mailText "GMT"

end Instant

end Depot.Time
