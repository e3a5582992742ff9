import Depot.Proofs.Calendar
import Depot.Proofs.RoundTrips
import Depot.Time.Compact
import Depot.Time.Format
import Mathlib.Algebra.Group.Nat.Defs

/-!
# Moments are read as they are written

A moment is found by its date and clock time (`ofCivil?_civil`).  The compact
form writes whole seconds, so what it is read as is the moment at the beginning
of its second (`ofCompact?_compact`), if its year has four digits.
-/

namespace Depot.Time

set_option autoImplicit false

open Depot.Text

/-! ## Clock time -/

namespace Instant

variable {t : Instant}

/-- A moment that the clock shows: a leap second is the last one of its minute, and not longer than
others. -/
structure OnClock (t : Instant) : Prop where
  below : t.nano < 2 * nanosPerSecond
  leap : t.isLeap → t.second % 60 = 59

/-- A second is one of its day. -/
theorem second_eq (t : Instant) :
    t.second = t.dayNumber * 86400 + t.secondOfDay ∧ t.secondOfDay < 86400 := by
  unfold secondOfDay dayNumber
  rw [Int.fdiv_eq_ediv_of_nonneg _ (by decide)]
  omega

theorem civil_of_leap (leap : t.isLeap) :
    t.civil = ⟨Date.ofDayNumber t.dayNumber, t.secondOfDay / 3600, t.secondOfDay / 60 % 60,
      t.secondOfDay % 60 + 1, t.nano - nanosPerSecond⟩ := by
  simp [civil, leap]

theorem civil_of_not_leap (plain : ¬ t.isLeap) :
    t.civil = ⟨Date.ofDayNumber t.dayNumber, t.secondOfDay / 3600, t.secondOfDay / 60 % 60,
      t.secondOfDay % 60, t.nano⟩ := by
  simp [civil, plain]

theorem isLeap_iff : t.isLeap ↔ nanosPerSecond ≤ t.nano := by
  simp [isLeap]

/-- **A moment is found by its date and clock time.** -/
theorem ofCivil?_civil (clock : t.OnClock) (inCalendar : t.isInCalendar) :
    ofCivil? t.civil = some t := by
  obtain ⟨whole, within⟩ := t.second_eq
  have date : (Date.ofDayNumber t.dayNumber).dayNumber = t.dayNumber := dayNumber_ofDayNumber _
  have below := clock.below
  have whole_eq {second : Int} {nano : Nat} (first : second = t.second) (rest : nano = t.nano) :
      some (⟨second, nano⟩ : Instant) = some t := by
    rw [first, rest]
  unfold isInCalendar at inCalendar
  by_cases leap : t.isLeap
  · have last := clock.leap leap
    have long := isLeap_iff.mp leap
    rw [civil_of_leap leap] at inCalendar ⊢
    unfold ofCivil?
    dsimp only at inCalendar ⊢
    rw [if_pos ⟨inCalendar, by omega, by omega, by omega, by omega⟩, if_pos (by omega), date]
    exact whole_eq (by omega) (by omega)
  · have under : t.nano < nanosPerSecond := Nat.lt_of_not_le (mt isLeap_iff.mpr leap)
    rw [civil_of_not_leap leap] at inCalendar ⊢
    unfold ofCivil?
    dsimp only at inCalendar ⊢
    rw [if_pos ⟨inCalendar, by omega, by omega, by omega, under⟩, if_neg (by omega), date]
    exact whole_eq (by omega) rfl

/-- A moment at the beginning of its second.  What lies a second past another second than the last
one of a minute belongs to the next second. -/
def truncated (t : Instant) : Instant :=
  if t.isLeap then if t.second % 60 = 59 then ⟨t.second, nanosPerSecond⟩ else ⟨t.second + 1, 0⟩
  else ⟨t.second, 0⟩

theorem truncated_cases (t : Instant) :
    t.isLeap ∧ t.second % 60 = 59 ∧ t.truncated = ⟨t.second, nanosPerSecond⟩ ∨
    t.isLeap ∧ t.second % 60 ≠ 59 ∧ t.truncated = ⟨t.second + 1, 0⟩ ∨
    ¬ t.isLeap ∧ t.truncated = ⟨t.second, 0⟩ := by
  unfold truncated
  split
  · next leap =>
      split
      · next last => exact .inl ⟨leap, last, rfl⟩
      · next early => exact .inr (.inl ⟨leap, early, rfl⟩)
  · next plain => exact .inr (.inr ⟨plain, rfl⟩)

theorem not_isLeap_whole (second : Int) : ¬ (⟨second, 0⟩ : Instant).isLeap := by
  simp [isLeap, nanosPerSecond]

theorem isLeap_last (second : Int) : (⟨second, nanosPerSecond⟩ : Instant).isLeap := by
  simp [isLeap]

theorem onClock_truncated (t : Instant) : t.truncated.OnClock := by
  have small : 0 < 2 * nanosPerSecond ∧ nanosPerSecond < 2 * nanosPerSecond := by decide
  rcases t.truncated_cases with ⟨-, last, own⟩ | ⟨-, -, own⟩ | ⟨-, own⟩ <;> rw [own]
  · exact ⟨small.2, fun _ => last⟩
  · exact ⟨small.1, fun leap => absurd leap (not_isLeap_whole _)⟩
  · exact ⟨small.1, fun leap => absurd leap (not_isLeap_whole _)⟩

/-- The next second is one of the same minute, unless the last one has come. -/
theorem next_second (early : t.second % 60 ≠ 59) (nano : Nat) :
    (⟨t.second + 1, nano⟩ : Instant).dayNumber = t.dayNumber ∧
      (⟨t.second + 1, nano⟩ : Instant).secondOfDay = t.secondOfDay + 1 := by
  have days : (⟨t.second + 1, nano⟩ : Instant).dayNumber = t.dayNumber := by
    unfold dayNumber
    rw [Int.fdiv_eq_ediv_of_nonneg _ (by decide), Int.fdiv_eq_ediv_of_nonneg _ (by decide)]
    dsimp only
    omega
  obtain ⟨whole, within⟩ := t.second_eq
  refine ⟨days, ?_⟩
  unfold secondOfDay
  rw [days]
  dsimp only
  omega

/-- The clock shows the whole seconds of a moment. -/
theorem civil_truncated (t : Instant) : t.truncated.civil = { t.civil with nano := 0 } := by
  rcases t.truncated_cases with ⟨leap, last, own⟩ | ⟨leap, early, own⟩ | ⟨plain, own⟩ <;> rw [own]
  · rw [civil_of_leap (isLeap_last _), civil_of_leap leap]
    dsimp only
    rw [Nat.sub_self]
    rfl
  -- A second past another than the last of its minute is shown as the one that comes next.
  · obtain ⟨days, seconds⟩ := next_second early 0
    obtain ⟨whole, within⟩ := t.second_eq
    have hour : (t.secondOfDay + 1) / 3600 = t.secondOfDay / 3600 := by omega
    have minute : (t.secondOfDay + 1) / 60 % 60 = t.secondOfDay / 60 % 60 := by omega
    have second : (t.secondOfDay + 1) % 60 = t.secondOfDay % 60 + 1 := by omega
    rw [civil_of_not_leap (not_isLeap_whole _), civil_of_leap leap, days, seconds, hour, minute,
      second]
  · rw [civil_of_not_leap (not_isLeap_whole _), civil_of_not_leap plain]
    rfl

/-- The compact forms of a moment are those of its whole second. -/
theorem compact_truncated (t : Instant) :
    t.truncated.compactDate = t.compactDate ∧ t.truncated.compact = t.compact := by
  unfold compact compactDate
  rw [civil_truncated]
  exact ⟨rfl, rfl⟩

end Instant

/-! ## Padded numbers -/

theorem digitsValue_eq {digits : List Char} (all : ∀ c, c ∈ digits → c.isDigit) :
    digitsValue digits = Nat.ofDigitChars 10 digits 0 := by
  have walk (value : Nat) : digits.foldl (fun value c => 10 * value + (digit? c).getD 0) value =
      Nat.ofDigitChars 10 digits value := by
    induction digits generalizing value with
    | nil => rfl
    | cons c rest ih =>
        rw [List.foldl_cons, Nat.ofDigitChars_cons, digit?_of_isDigit (all c List.mem_cons_self)]
        exact ih (fun c' member => all c' (.tail _ member)) _
  exact walk 0

section

variable {width n : Nat}

/-- A padded number has the digits of its width. -/
theorem length_padded (fits : n < 10 ^ width) (filled : 0 < width) :
    (padded width n).toList.length = width := by
  have short : (Nat.toDigits 10 n).length ≤ width :=
    (Nat.length_toDigits_le_iff (by decide) filled).mpr fits
  rw [padded, String.toList_ofList, List.length_append, List.length_replicate]
  omega

theorem isDigit_padded {c : Char} (member : c ∈ (padded width n).toList) : c.isDigit := by
  rw [padded, String.toList_ofList, List.mem_append] at member
  rcases member with zero | digit
  · rw [List.eq_of_mem_replicate zero]
    decide
  · exact Nat.isDigit_of_mem_toDigits (by decide) (by decide) digit

theorem digitsValue_padded (width n : Nat) : digitsValue (padded width n).toList = n := by
  rw [digitsValue_eq fun c => isDigit_padded, padded, String.toList_ofList, Nat.ofDigitChars_append,
    Nat.ofDigitChars_replicate_zero, Nat.mul_zero,
    Nat.ofDigitChars_toDigits (by decide) (by decide)]

/-- A padded number has no blank and no sign before it. -/
theorem padded_cons (fits : n < 10 ^ width) (filled : 0 < width) :
    ∃ c digits, (padded width n).toList = c :: digits ∧ isBlank c = false ∧ c ≠ '-' ∧ c ≠ '+' := by
  have length := length_padded fits filled
  cases shown : (padded width n).toList with
  | nil =>
      rw [shown] at length
      exact absurd length (Nat.ne_of_lt filled)
  | cons c digits =>
      have digit : c.isDigit := isDigit_padded (shown ▸ List.mem_cons_self)
      exact ⟨c, digits, rfl, isBlank_of_isDigit digit, ne_of_isDigit digit rfl,
        ne_of_isDigit digit rfl⟩

/-- A padded number is taken off a text. -/
theorem takeNumber?_padded (fits : n < 10 ^ width) (filled : 0 < width) (rest : List Char) :
    takeNumber? width ((padded width n).toList ++ rest) = some (n, rest) := by
  have length := length_padded fits filled
  have own : ∀ c, c ∈ (padded width n).toList → isDigit c := by
    intro c member
    rw [isDigit, digit?_of_isDigit (isDigit_padded member)]
    rfl
  have digits : (padded width n).toList.takeWhile isDigit = (padded width n).toList := by
    simpa using @List.takeWhile_append_of_pos _ isDigit _ [] own
  have some : (padded width n).toList.isEmpty = false := by
    obtain ⟨c, digits, shown, -⟩ := padded_cons fits filled
    rw [shown]
    rfl
  rw [takeNumber?, List.take_left' length, digits, some, digitsValue_padded, List.drop_left]
  rfl

theorem skipBlanks_padded (fits : n < 10 ^ width) (filled : 0 < width) (rest : List Char) :
    skipBlanks ((padded width n).toList ++ rest) = (padded width n).toList ++ rest := by
  obtain ⟨c, digits, shown, blank, -⟩ := padded_cons fits filled
  rw [shown]
  exact List.dropWhile_cons_of_neg (by simp [blank])

theorem takePair?_padded (fits : n < 100) (rest : List Char) :
    takePair? ((padded 2 n).toList ++ rest) = some (n, rest) := by
  rw [takePair?, skipBlanks_padded fits (by decide), takeNumber?_padded fits (by decide)]

theorem takeYear?_padded (fits : n < 10000) (rest : List Char) :
    takeYear? ((padded 4 n).toList ++ rest) = some ((n : Int), rest) := by
  obtain ⟨c, digits, shown, -, minus, plus⟩ := @padded_cons 4 n fits (by decide)
  rw [takeYear?, skipBlanks_padded fits (by decide)]
  have read := @takeNumber?_padded 4 n fits (by decide) rest
  rw [shown, List.cons_append] at read ⊢
  split
  · next same => cases same; exact absurd rfl minus
  · next same => cases same; exact absurd rfl plus
  · rw [read]
    rfl

end

/-! ## The compact form -/

namespace Instant

variable {t : Instant}

/-- Date and clock time of a moment have two digits each, but the year. -/
theorem fits_of_ofCivil? {c : Civil} (found : ofCivil? c = some t) :
    c.date.month < 100 ∧ c.date.day < 100 ∧ c.hour < 100 ∧ c.minute < 100 ∧ c.second < 100 := by
  unfold ofCivil? at found
  split at found
  · next fine =>
      obtain ⟨date, hour, minute, second, -⟩ := fine
      have days : daysInMonth c.date.year c.date.month ≤ 31 := by
        unfold daysInMonth
        split
        · split <;> decide
        · split <;> decide
      simp only [Date.isValid, Bool.and_eq_true, decide_eq_true_eq] at date
      omega
  · cases found

def HasFourDigitYear (t : Instant) : Prop := 0 ≤ t.civil.date.year ∧ t.civil.date.year ≤ 9999

/-- A year of four digits is written with them. -/
theorem HasFourDigitYear.spelled (year : t.HasFourDigitYear) :
    ∃ n : Nat, t.civil.date.year = n ∧ n ≤ 9999 ∧ yearText t.civil.date.year = padded 4 n := by
  obtain ⟨after, before⟩ := year
  obtain ⟨n, own⟩ := Int.eq_ofNat_of_zero_le after
  have small : n ≤ 9999 := by omega
  refine ⟨n, own, small, ?_⟩
  rw [own]
  show (if n ≤ 9999 then padded 4 n else "+" ++ padded 4 n) = padded 4 n
  rw [if_pos small]

/-- The compact date has only digits. -/
theorem isDigit_compactDate (year : t.HasFourDigitYear) {c : Char}
    (member : c ∈ t.compactDate.toList) : c.isDigit := by
  obtain ⟨n, -, -, spelled⟩ := year.spelled
  rw [compactDate, spelled] at member
  simp only [String.toList_append, List.mem_append] at member
  rcases member with (inYear | inMonth) | inDay
  · exact isDigit_padded inYear
  · exact isDigit_padded inMonth
  · exact isDigit_padded inDay

/-- The compact form is a row of padded numbers with two marks. -/
theorem toList_compact {n : Nat} (spelled : yearText t.civil.date.year = padded 4 n) :
    t.compact.toList =
      (padded 4 n).toList ++ ((padded 2 t.civil.date.month).toList ++
        ((padded 2 t.civil.date.day).toList ++ 'T' :: ((padded 2 t.civil.hour).toList ++
          ((padded 2 t.civil.minute).toList ++
            ((padded 2 t.civil.second).toList ++ ['Z']))))) := by
  have marks : "T".toList = ['T'] ∧ "Z".toList = ['Z'] := by decide
  simp only [compact, compactDate, spelled, String.toList_append, marks, List.append_assoc,
    List.cons_append, List.nil_append]

/-- **A moment is read from its compact form**, if it is one of whole seconds and its year has four
digits. -/
theorem ofCompact?_compact (clock : t.OnClock) (whole : t.civil.nano = 0)
    (year : t.HasFourDigitYear) : ofCompact? t.compact = some t := by
  obtain ⟨n, own, small, spelled⟩ := year.spelled
  have inCalendar : t.civil.date.isValid :=
    isValid_ofDayNumber (Int.le_trans (by decide) year.1) (Int.le_trans year.2 (by decide))
  have found := ofCivil?_civil clock inCalendar
  obtain ⟨month, day, hour, minute, second⟩ := fits_of_ofCivil? found
  have civil : t.civil = ⟨⟨n, t.civil.date.month, t.civil.date.day⟩, t.civil.hour, t.civil.minute,
      t.civil.second, 0⟩ := by
    rw [← own, ← whole]
  unfold ofCompact?
  rw [toList_compact spelled]
  simp only [takeYear?_padded (Nat.lt_succ_of_le small), takePair?_padded month,
    takePair?_padded day, takePair?_padded hour, takePair?_padded minute, takePair?_padded second,
    takeChar?, bind, Option.bind, if_true, List.isEmpty_nil]
  rw [← civil, found]

end Instant

end Depot.Time
