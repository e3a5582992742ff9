import Depot.Time.Calendar

/-!
# Every day has its date

The calendar repeats every 146097 days, an era of 400 years.  Within an era the
year of a day is found by taking away the leap days before it, and the month by
taking away the days before it in a year that begins in March.  What is left is
the day of the month.  Counted back, the date of a day gives the number of the
day (`dayNumber_ofDayNumber`), and within the years of the calendar the date
exists (`isValid_ofDayNumber`).
-/

namespace Depot.Time

set_option autoImplicit false

/-! ## Years of an era -/

/-- The days of an era before one of its years. -/
def daysBefore (year : Int) : Int := 365 * year + year / 4 - year / 100

/-- The year of an era that a day of it lies in. -/
def yearOfEra (day : Int) : Int := (day - day / 1460 + day / 36524 - day / 146096) / 365

/-- A day of a year of an era, counted from 0; only a leap year has a day more than 365. -/
structure IsDayOf (year day : Int) : Prop where
  first : 0 ≤ year
  last : year ≤ 399
  begun : 0 ≤ day
  ended : day ≤ 365
  leap : day = 365 → year % 4 = 3 ∧ (year % 100 ≠ 99 ∨ year = 399)

/-- Every day of an era is a day of its year. -/
theorem isDayOf_yearOfEra {day : Int} (first : 0 ≤ day) (last : day < 146097) :
    IsDayOf (yearOfEra day) (day - daysBefore (yearOfEra day)) := by
  obtain rfl | before : day = 146096 ∨ day < 146096 := by omega
  · -- The last day of an era is the leap day of its last year.
    constructor <;> decide
  · obtain ⟨year, own⟩ : ∃ year, year = yearOfEra day := ⟨_, rfl⟩
    rw [← own]
    have none : day / 146096 = 0 := by omega
    have century : day / 36524 = 0 ∨ day / 36524 = 1 ∨ day / 36524 = 2 ∨ day / 36524 = 3 := by
      omega
    rw [yearOfEra, none] at own
    -- The cycles of four years before the day are those before its year, but at the end of one.
    have cycles : year / 4 = day / 1460 ∨ year / 4 + 1 = day / 1460 ∧ year % 4 = 3 := by
      rcases century with c | c | c | c <;> rw [c] at own <;> omega
    have centuries : year / 100 = day / 36524 := by
      rcases century with c | c | c | c <;> rw [c] at own ⊢ <;> omega
    unfold daysBefore
    exact ⟨by omega, by omega, by omega, by omega, fun full => ⟨by omega, .inl (by omega)⟩⟩

/-! ## Months of a year -/

/-- The month, counted from March, that a day of a year lies in. -/
def monthFromMarch (day : Int) : Int := (5 * day + 2) / 153

/-- The days of a year before a month, counted from March. -/
def daysBeforeMonth (month : Int) : Int := (153 * month + 2) / 5

/-- The date of a day of a year of an era. -/
def dateOf (era year day : Int) : Date :=
  let month := monthFromMarch day
  let dayOfMonth := (day - daysBeforeMonth month + 1).toNat
  if month < 10 then ⟨year + era * 400, (month + 3).toNat, dayOfMonth⟩
  else ⟨year + era * 400 + 1, (month - 9).toNat, dayOfMonth⟩

section

variable {era year day : Int}

/-- The months of a year are twelve, and a day lies between the beginnings of its month and of the
next one. -/
theorem monthFromMarch_spec (begun : 0 ≤ day) (ended : day ≤ 365) :
    0 ≤ monthFromMarch day ∧ monthFromMarch day ≤ 11 ∧ daysBeforeMonth (monthFromMarch day) ≤ day ∧
      day < daysBeforeMonth (monthFromMarch day + 1) := by
  unfold daysBeforeMonth monthFromMarch
  omega

/-- The date of a day of an era is that many days from 1 January 1970. -/
theorem dayNumber_dateOf (lies : IsDayOf year day) :
    (dateOf era year day).dayNumber = era * 146097 + (daysBefore year + day) - 719468 := by
  obtain ⟨first, last, begun, ended, -⟩ := lies
  obtain ⟨march, february, since, -⟩ := monthFromMarch_spec begun ended
  have years : (year + era * 400).fdiv 400 = era := by
    rw [Int.fdiv_eq_ediv_of_nonneg _ (by decide)]
    omega
  unfold dateOf Date.dayNumber
  generalize monthFromMarch day = month at *
  dsimp only
  by_cases early : month < 10
  · have back : (((month + 3).toNat : Int) + 9) % 12 = month := by omega
    simp only [if_pos early]
    rw [if_neg (by omega), years, back, Int.add_sub_cancel]
    unfold daysBefore daysBeforeMonth at *
    omega
  · have back : (((month - 9).toNat : Int) + 9) % 12 = month := by omega
    simp only [if_neg early]
    rw [if_pos (by omega), Int.add_sub_cancel, years, back, Int.add_sub_cancel]
    unfold daysBefore daysBeforeMonth at *
    omega

/-- A month has the days up to the beginning of the next one, up to January. -/
theorem daysInMonth_eq {month : Int} (march : 0 ≤ month) (january : month ≤ 10) (year : Int) :
    (daysInMonth year (if month < 10 then month + 3 else month - 9).toNat : Int) =
      daysBeforeMonth (month + 1) - daysBeforeMonth month := by
  have months : month = 0 ∨ month = 1 ∨ month = 2 ∨ month = 3 ∨ month = 4 ∨ month = 5 ∨ month = 6 ∨
      month = 7 ∨ month = 8 ∨ month = 9 ∨ month = 10 := by omega
  rcases months with rfl | rfl | rfl | rfl | rfl | rfl | rfl | rfl | rfl | rfl | rfl <;>
    simp [daysInMonth, daysBeforeMonth]

/-- The February at the end of a leap year has its leap day. -/
theorem le_daysInMonth_february (lies : IsDayOf year day) :
    day - 336 ≤ daysInMonth (year + era * 400 + 1) 2 := by
  obtain ⟨-, -, -, ended, leap⟩ := lies
  have own : daysInMonth (year + era * 400 + 1) 2 =
      if isLeapYear (year + era * 400 + 1) then 29 else 28 := rfl
  rw [own]
  by_cases full : day = 365
  · have isLeap : isLeapYear (year + era * 400 + 1) := by
      have cycle := leap full
      simp only [isLeapYear, Bool.or_eq_true, Bool.and_eq_true, beq_iff_eq, bne_iff_ne]
      omega
    rw [if_pos isLeap]
    omega
  · split <;> omega

/-- The date of a day of an era exists, if its year is in the calendar. -/
theorem isValid_dateOf (lies : IsDayOf year day) (after : minYear ≤ (dateOf era year day).year)
    (before : (dateOf era year day).year ≤ maxYear) : (dateOf era year day).isValid := by
  obtain ⟨march, february, since, til⟩ := monthFromMarch_spec lies.begun lies.ended
  have month : 1 ≤ (dateOf era year day).month ∧ (dateOf era year day).month ≤ 12 := by
    unfold dateOf
    dsimp only
    split <;> dsimp only <;> omega
  have first : 1 ≤ (dateOf era year day).day := by
    unfold dateOf
    dsimp only
    split <;> dsimp only <;> omega
  have last : (dateOf era year day).day ≤
      daysInMonth (dateOf era year day).year (dateOf era year day).month := by
    have late := @le_daysInMonth_february era year day lies
    unfold dateOf
    generalize monthFromMarch day = month at *
    dsimp only
    by_cases early : month < 10
    · have days := daysInMonth_eq march (by omega) (year + era * 400)
      simp only [if_pos early] at days ⊢
      omega
    · obtain rfl | rfl : month = 10 ∨ month = 11 := by omega
      · have days := daysInMonth_eq march (by omega) (year + era * 400 + 1)
        simp only [if_neg early] at days ⊢
        omega
      · simp only [if_neg early]
        have february : daysBeforeMonth 11 = 337 := by decide
        have second : ((11 : Int) - 9).toNat = 2 := by decide
        rw [february, second]
        omega
  unfold Date.isValid
  simp only [after, before, month, first, last, decide_true, Bool.and_self]

end

/-! ## Days -/

/-- The date of a day is that of a day of a year of an era. -/
theorem exists_dateOf (n : Int) : ∃ era year day, IsDayOf year day ∧
    Date.ofDayNumber n = dateOf era year day ∧
    n = era * 146097 + (daysBefore year + day) - 719468 := by
  obtain ⟨era, own⟩ : ∃ era, era = (n + 719468).fdiv 146097 := ⟨_, rfl⟩
  have within : 0 ≤ n + 719468 - era * 146097 ∧ n + 719468 - era * 146097 < 146097 := by
    rw [Int.fdiv_eq_ediv_of_nonneg _ (by decide)] at own
    omega
  obtain ⟨day, counted⟩ : ∃ day, day = n + 719468 - era * 146097 := ⟨_, rfl⟩
  rw [← counted] at within
  have lies := isDayOf_yearOfEra within.1 within.2
  refine ⟨era, yearOfEra day, day - daysBefore (yearOfEra day), lies, ?_, by omega⟩
  obtain ⟨march, february, -, -⟩ := monthFromMarch_spec lies.begun lies.ended
  have read : Date.ofDayNumber n =
      let year := yearOfEra day + era * 400
      let month := monthFromMarch (day - daysBefore (yearOfEra day))
      let civil := if month < 10 then month + 3 else month - 9
      ⟨if civil ≤ 2 then year + 1 else year, civil.toNat,
        (day - daysBefore (yearOfEra day) - daysBeforeMonth month + 1).toNat⟩ := by
    rw [counted, own]
    rfl
  rw [read]
  unfold dateOf
  dsimp only
  split
  · rw [if_neg (by omega)]
  · rw [if_pos (by omega)]

/-- **The date of a day is that many days from 1 January 1970.** -/
theorem dayNumber_ofDayNumber (n : Int) : (Date.ofDayNumber n).dayNumber = n := by
  obtain ⟨era, year, day, lies, date, counted⟩ := exists_dateOf n
  rw [date, dayNumber_dateOf lies, ← counted]

/-- **The date of a day exists**, if its year is in the calendar. -/
theorem isValid_ofDayNumber {n : Int} (after : minYear ≤ (Date.ofDayNumber n).year)
    (before : (Date.ofDayNumber n).year ≤ maxYear) : (Date.ofDayNumber n).isValid := by
  obtain ⟨era, year, day, lies, date, -⟩ := exists_dateOf n
  rw [date] at after before ⊢
  exact isValid_dateOf lies after before

end Depot.Time
