import Depot.Time.Calendar

/-!
# Moments

A moment is a whole second since the beginning of 1970 in universal time and a
number of nanoseconds.  A leap second is kept as a second whole billion of
nanoseconds within the second before it, so that `23:59:60` stands between
`23:59:59` and the next midnight.
-/

namespace Depot.Time

set_option autoImplicit false

/-- A moment in universal time. -/
structure Instant where
  /-- Seconds since 1 January 1970. -/
  second : Int
  /-- Nanoseconds into that second; from one billion on, into the leap second that follows it. -/
  nano : Nat
  deriving DecidableEq, Repr

def nanosPerSecond : Nat := 1000000000

/-- Clock time on a civil date. -/
structure Civil where
  date : Date
  hour : Nat
  minute : Nat
  /-- From 0 to 60; 60 is a leap second. -/
  second : Nat
  /-- Below one billion. -/
  nano : Nat
  deriving DecidableEq, Repr

namespace Instant

def isLeap (t : Instant) : Bool := decide (nanosPerSecond ≤ t.nano)

def dayNumber (t : Instant) : Int := t.second.fdiv 86400

def secondOfDay (t : Instant) : Nat := (t.second - t.dayNumber * 86400).toNat

/-- Date and clock time of a moment. -/
def civil (t : Instant) : Civil :=
  let s := t.secondOfDay
  let leap := if t.isLeap then 1 else 0
  { date := Date.ofDayNumber t.dayNumber
    hour := s / 3600
    minute := s / 60 % 60
    second := s % 60 + leap
    nano := t.nano - leap * nanosPerSecond }

/-- The moment of a date and clock time, when they exist.  A sixtieth second is a leap second. -/
def ofCivil? (c : Civil) : Option Instant :=
  if c.date.isValid ∧ c.hour ≤ 23 ∧ c.minute ≤ 59 ∧ c.second ≤ 60 ∧ c.nano < nanosPerSecond then
    let whole := c.date.dayNumber * 86400 + c.hour * 3600 + c.minute * 60 + c.second
    some
      (if c.second = 60 then { second := whole - 1, nano := c.nano + nanosPerSecond }
      else { second := whole, nano := c.nano })
  else none

/-- A moment some seconds later or, with a negative number, earlier. -/
def addSeconds (t : Instant) (seconds : Int) : Instant := ⟨t.second + seconds, t.nano⟩

/-- Whether a moment lies on a day of the calendar. -/
def isInCalendar (t : Instant) : Bool := t.civil.date.isValid

/-- The nanoseconds from `b` to `a`.  A leap second counts when it lies between the two clock
times of day. -/
def nanosSince (a b : Instant) : Int :=
  let leap : Int :=
    if b.secondOfDay < a.secondOfDay ∧ b.isLeap then 1
    else if a.secondOfDay < b.secondOfDay ∧ a.isLeap then -1
    else 0
  (a.second - b.second + leap) * nanosPerSecond + (a.nano - b.nano)

/-- The distance of two moments in whole seconds, in either direction. -/
def secondsApart (a b : Instant) : Nat := (a.nanosSince b).natAbs / nanosPerSecond

end Instant

end Depot.Time
