import EventConsole.Time.Calendar
import Mathlib.Tactic.IntervalCases

/-!
Contract: a date is found again from its number of days, and every day has a date.

Eras of 400 years repeat, so the argument is about one era: which year of it a
day falls in, and which month of a year that begins in March. Years are told apart
by their first days.

Owns: the first and last day of a year of an era, the round trips of dates and of
days, and which days lie in a year.
-/

namespace EventConsole.Time

/-! ### Years -/

/-- Days of an era before one of its years. -/
def daysBefore (yearOfEra : Int) : Int := 365 * yearOfEra + yearOfEra / 4 - yearOfEra / 100

/-- The year of an era that a day of it falls in. -/
def yearOfDay (dayOfEra : Int) : Int :=
  (dayOfEra - dayOfEra / 1460 + dayOfEra / 36524 - dayOfEra / 146096) / 365

/-- The last day of a year of an era, counted from zero. It is the leap day that
ends the February after. -/
def lastDay (yearOfEra : Int) : Int :=
  if (yearOfEra + 1) % 4 = 0 ∧ ((yearOfEra + 1) % 100 ≠ 0 ∨ yearOfEra = 399) then 365 else 364

theorem yearOfDay_mono {day other : Int} (ordered : day ≤ other) :
    yearOfDay day ≤ yearOfDay other := by
  unfold yearOfDay
  apply Int.ediv_le_ediv (by decide)
  omega

private theorem yearOfDay_ends (yearOfEra : Fin 400) :
    yearOfDay (daysBefore yearOfEra) = yearOfEra ∧
      yearOfDay (daysBefore yearOfEra + lastDay yearOfEra) = yearOfEra := by
  revert yearOfEra
  decide +kernel

/-- Between the first and the last day of a year all days fall in it. -/
theorem yearOfDay_of_within {yearOfEra dayOfYear : Int} (isYear : 0 ≤ yearOfEra ∧ yearOfEra < 400)
    (isDay : 0 ≤ dayOfYear ∧ dayOfYear ≤ lastDay yearOfEra) :
    yearOfDay (daysBefore yearOfEra + dayOfYear) = yearOfEra := by
  have ends := yearOfDay_ends ⟨yearOfEra.toNat, by omega⟩
  rw [Int.toNat_of_nonneg isYear.1] at ends
  have fromFirst := yearOfDay_mono (show daysBefore yearOfEra ≤ daysBefore yearOfEra + dayOfYear by
    omega)
  have toLast := yearOfDay_mono (show daysBefore yearOfEra + dayOfYear ≤
    daysBefore yearOfEra + lastDay yearOfEra by omega)
  omega

private theorem dayOfEra_bounds {yearOfEra dayOfYear : Int}
    (isYear : 0 ≤ yearOfEra ∧ yearOfEra < 400)
    (isDay : 0 ≤ dayOfYear ∧ dayOfYear ≤ lastDay yearOfEra) :
    0 ≤ daysBefore yearOfEra + dayOfYear ∧ daysBefore yearOfEra + dayOfYear < 146097 := by
  unfold lastDay at isDay
  unfold daysBefore
  split at isDay <;> omega

/-! ### Months -/

/-- Days of a year before one of its months, which are counted from March. -/
def daysBeforeMonth (monthFromMarch : Int) : Int := (153 * monthFromMarch + 2) / 5

/-- Length of a month counted from March; February, the last, may have its leap
day. -/
def lengthFromMarch (monthFromMarch : Int) : Int :=
  if monthFromMarch = 11 then 29
  else if monthFromMarch = 1 ∨ monthFromMarch = 3 ∨ monthFromMarch = 6 ∨ monthFromMarch = 8 then 30
  else 31

private theorem monthOfDay {monthFromMarch day : Int}
    (isMonth : 0 ≤ monthFromMarch ∧ monthFromMarch ≤ 11)
    (isDay : 1 ≤ day ∧ day ≤ lengthFromMarch monthFromMarch) :
    (5 * (daysBeforeMonth monthFromMarch + day - 1) + 2) / 153 = monthFromMarch := by
  obtain ⟨first, last⟩ := isMonth
  unfold daysBeforeMonth
  interval_cases monthFromMarch <;> simp [lengthFromMarch] at isDay <;> omega

/-- Only a leap day is the 366th of its year. -/
theorem dayOfYear_bounds {monthFromMarch day : Int}
    (isMonth : 0 ≤ monthFromMarch ∧ monthFromMarch ≤ 11)
    (isDay : 1 ≤ day ∧ day ≤ lengthFromMarch monthFromMarch) :
    0 ≤ daysBeforeMonth monthFromMarch + day - 1 ∧
      (daysBeforeMonth monthFromMarch + day - 1 ≤ 364 ∨
        daysBeforeMonth monthFromMarch + day - 1 = 365 ∧ monthFromMarch = 11 ∧ day = 29) := by
  obtain ⟨first, last⟩ := isMonth
  unfold daysBeforeMonth
  interval_cases monthFromMarch <;> simp [lengthFromMarch] at isDay <;> omega

/-! ### Dates -/

/-- The month of the year, of a month counted from March. -/
def monthOfYear (monthFromMarch : Int) : Int :=
  if monthFromMarch < 10 then monthFromMarch + 3 else monthFromMarch - 9

/-- The date of a day of a year that begins in March. -/
def dateOfDay (marchYear dayOfYear : Int) : Date :=
  let monthFromMarch := (5 * dayOfYear + 2) / 153
  let month := monthOfYear monthFromMarch
  ⟨if month ≤ 2 then marchYear + 1 else marchYear, month.toNat,
    (dayOfYear - daysBeforeMonth monthFromMarch + 1).toNat⟩

theorem ofDays_eq (days : Int) :
    Date.ofDays days =
      let era := (days + 719468) / 146097
      let dayOfEra := days + 719468 - era * 146097
      dateOfDay (yearOfDay dayOfEra + era * 400) (dayOfEra - daysBefore (yearOfDay dayOfEra)) := rfl

private theorem ofDays_of_within (era : Int) {yearOfEra dayOfYear : Int}
    (isYear : 0 ≤ yearOfEra ∧ yearOfEra < 400)
    (isDay : 0 ≤ dayOfYear ∧ dayOfYear ≤ lastDay yearOfEra) :
    Date.ofDays (era * 146097 + (daysBefore yearOfEra + dayOfYear) - 719468) =
      dateOfDay (yearOfEra + era * 400) dayOfYear := by
  have bounds := dayOfEra_bounds isYear isDay
  have isEra : (era * 146097 + (daysBefore yearOfEra + dayOfYear) - 719468 + 719468) / 146097 =
      era := by omega
  have dayOfEra : era * 146097 + (daysBefore yearOfEra + dayOfYear) - 719468 + 719468 -
      era * 146097 = daysBefore yearOfEra + dayOfYear := by omega
  simp only [ofDays_eq, isEra, dayOfEra, yearOfDay_of_within isYear isDay, add_sub_cancel_left]

private theorem dateOfDay_of_within (marchYear : Int) {monthFromMarch day : Int}
    (isMonth : 0 ≤ monthFromMarch ∧ monthFromMarch ≤ 11)
    (isDay : 1 ≤ day ∧ day ≤ lengthFromMarch monthFromMarch) :
    dateOfDay marchYear (daysBeforeMonth monthFromMarch + day - 1) =
      ⟨if monthOfYear monthFromMarch ≤ 2 then marchYear + 1 else marchYear,
        (monthOfYear monthFromMarch).toNat, day.toNat⟩ := by
  have isDayOfMonth : daysBeforeMonth monthFromMarch + day - 1 - daysBeforeMonth monthFromMarch +
      1 = day := by omega
  simp only [dateOfDay, monthOfDay isMonth isDay, isDayOfMonth]

theorem isLeapYear_iff (year : Int) :
    isLeapYear year = true ↔ year % 4 = 0 ∧ (year % 100 ≠ 0 ∨ year % 400 = 0) := by
  simp [isLeapYear]

namespace Date

/-- The year of a date, when years begin in March. -/
def marchYear (date : Date) : Int := if date.month ≤ 2 then date.year - 1 else date.year

def monthFromMarch (date : Date) : Int := (date.month + 9) % 12

def dayOfYear (date : Date) : Int := daysBeforeMonth date.monthFromMarch + date.day - 1

theorem toDays_eq (date : Date) :
    date.toDays =
      date.marchYear / 400 * 146097 + (daysBefore (date.marchYear % 400) + date.dayOfYear) -
        719468 := by
  have inEra : date.marchYear % 400 = date.marchYear - date.marchYear / 400 * 400 := by omega
  rw [inEra, daysBefore, mul_comm 365]
  rfl

variable {date : Date}

theorem monthFromMarch_bounds (date : Date) :
    0 ≤ date.monthFromMarch ∧ date.monthFromMarch ≤ 11 := by
  unfold monthFromMarch
  omega

private theorem monthOfYear_monthFromMarch (valid : date.Valid) :
    monthOfYear date.monthFromMarch = date.month := by
  obtain ⟨fromJanuary, toDecember, -, -⟩ := valid
  unfold monthOfYear monthFromMarch
  split <;> omega

private theorem year_marchYear (date : Date) :
    (if (date.month : Int) ≤ 2 then date.marchYear + 1 else date.marchYear) = date.year := by
  unfold marchYear
  split_ifs <;> omega

theorem day_bounds (valid : date.Valid) :
    1 ≤ (date.day : Int) ∧ (date.day : Int) ≤ lengthFromMarch date.monthFromMarch := by
  obtain ⟨fromJanuary, toDecember, fromFirst, toLast⟩ := valid
  unfold monthLength at toLast
  unfold lengthFromMarch monthFromMarch
  split_ifs at toLast ⊢ <;> omega

theorem dayOfYear_within (valid : date.Valid) :
    0 ≤ date.dayOfYear ∧ date.dayOfYear ≤ lastDay (date.marchYear % 400) := by
  obtain ⟨fromStart, early | ⟨isLast, isFebruary, isLeapDay⟩⟩ :=
    dayOfYear_bounds date.monthFromMarch_bounds (day_bounds valid)
  · refine ⟨fromStart, Int.le_trans early ?_⟩
    unfold lastDay
    split <;> decide
  · obtain ⟨fromJanuary, toDecember, -, toLast⟩ := valid
    have month : date.month = 2 := by
      unfold monthFromMarch at isFebruary
      omega
    have isLeap : isLeapYear date.year = true := by
      by_contra notLeap
      rw [monthLength, if_pos month, if_neg notLeap] at toLast
      omega
    have ends := (isLeapYear_iff date.year).mp isLeap
    have marchYear : date.marchYear = date.year - 1 := if_pos (by omega)
    rw [lastDay, if_pos (by omega)]
    exact ⟨fromStart, Int.le_of_eq isLast⟩

end Date

theorem ofDays_toDays {date : Date} (valid : date.Valid) : Date.ofDays date.toDays = date := by
  have inEra : 0 ≤ date.marchYear % 400 ∧ date.marchYear % 400 < 400 := by omega
  have together : date.marchYear % 400 + date.marchYear / 400 * 400 = date.marchYear := by omega
  rw [date.toDays_eq, ofDays_of_within _ inEra (Date.dayOfYear_within valid), Date.dayOfYear,
    dateOfDay_of_within _ date.monthFromMarch_bounds (Date.day_bounds valid),
    Date.monthOfYear_monthFromMarch valid, together, date.year_marchYear, Int.toNat_natCast,
    Int.toNat_natCast]

/-! ### Years of an era -/

theorem daysBefore_succ {yearOfEra : Int} (inEra : 0 ≤ yearOfEra ∧ yearOfEra < 399) :
    daysBefore (yearOfEra + 1) = daysBefore yearOfEra + lastDay yearOfEra + 1 := by
  unfold daysBefore lastDay
  split <;> omega

private theorem yearOfDay_bounds {dayOfEra : Int} (inEra : 0 ≤ dayOfEra ∧ dayOfEra < 146097) :
    0 ≤ yearOfDay dayOfEra ∧ yearOfDay dayOfEra < 400 := by
  have first : yearOfDay 0 = 0 := by decide
  have last : yearOfDay 146096 = 399 := by decide
  have fromFirst := yearOfDay_mono inEra.1
  have toLast := yearOfDay_mono (show dayOfEra ≤ 146096 by omega)
  omega

/-- A day lies between the first and the last day of its year. -/
theorem within_yearOfDay {dayOfEra : Int} (inEra : 0 ≤ dayOfEra ∧ dayOfEra < 146097) :
    0 ≤ dayOfEra - daysBefore (yearOfDay dayOfEra) ∧
      dayOfEra - daysBefore (yearOfDay dayOfEra) ≤ lastDay (yearOfDay dayOfEra) := by
  obtain ⟨fromFirst, toLast⟩ := yearOfDay_bounds inEra
  generalize isYear : yearOfDay dayOfEra = year at fromFirst toLast
  have ends (other : Int) (inRange : 0 ≤ other ∧ other < 400) :
      yearOfDay (daysBefore other) = other ∧
        yearOfDay (daysBefore other + lastDay other) = other := by
    have both := yearOfDay_ends ⟨other.toNat, by omega⟩
    rwa [Int.toNat_of_nonneg inRange.1] at both
  constructor
  · by_contra early
    -- The day would be one of the year before.
    by_cases isFirst : year = 0
    · rw [isFirst, show daysBefore 0 = 0 by decide] at early
      omega
    · have previous := daysBefore_succ (show 0 ≤ year - 1 ∧ year - 1 < 399 by omega)
      rw [Int.sub_add_cancel] at previous
      have before := yearOfDay_mono
        (show dayOfEra ≤ daysBefore (year - 1) + lastDay (year - 1) by omega)
      rw [isYear, (ends (year - 1) (by omega)).2] at before
      omega
  · by_contra late
    -- The day would be one of the year after.
    by_cases isLast : year = 399
    · rw [isLast, show daysBefore 399 = 145731 by decide, show lastDay 399 = 365 by decide] at late
      omega
    · have next := daysBefore_succ (show 0 ≤ year ∧ year < 399 by omega)
      have after := yearOfDay_mono (show daysBefore (year + 1) ≤ dayOfEra by omega)
      rw [isYear, (ends (year + 1) (by omega)).1] at after
      omega

/-! ### Months of a year -/

/-- A day of a year lies in one month of it, and only the 366th is a leap day. -/
theorem within_monthOfDay {dayOfYear : Int} (isDay : 0 ≤ dayOfYear ∧ dayOfYear ≤ 365) :
    ∃ monthFromMarch : Int, (5 * dayOfYear + 2) / 153 = monthFromMarch ∧
      (0 ≤ monthFromMarch ∧ monthFromMarch ≤ 11) ∧
      (1 ≤ dayOfYear - daysBeforeMonth monthFromMarch + 1 ∧
        dayOfYear - daysBeforeMonth monthFromMarch + 1 ≤ lengthFromMarch monthFromMarch) ∧
      (monthFromMarch = 11 → dayOfYear - daysBeforeMonth monthFromMarch + 1 = 29 →
        dayOfYear = 365) := by
  refine ⟨_, rfl, by omega, ?_⟩
  generalize isMonth : (5 * dayOfYear + 2) / 153 = monthFromMarch
  have first : 0 ≤ monthFromMarch := by omega
  have last : monthFromMarch ≤ 11 := by omega
  unfold daysBeforeMonth lengthFromMarch
  interval_cases monthFromMarch <;> simp <;> omega

/-! ### Dates of days -/

/-- The year after one whose last day is a leap day is a leap year. -/
theorem isLeapYear_of_lastDay {marchYear : Int} (isLast : 365 ≤ lastDay (marchYear % 400)) :
    isLeapYear (marchYear + 1) = true := by
  rw [isLeapYear_iff]
  unfold lastDay at isLast
  split at isLast <;> omega

/-- Months are as long in a year that begins in March as in one that begins in
January. -/
theorem le_monthLength {year monthFromMarch day : Int}
    (months : 0 ≤ monthFromMarch ∧ monthFromMarch ≤ 11)
    (days : 1 ≤ day ∧ day ≤ lengthFromMarch monthFromMarch)
    (leap : monthFromMarch = 11 → day = 29 → isLeapYear year = true) :
    day ≤ monthLength year (monthOfYear monthFromMarch).toNat := by
  unfold lengthFromMarch at days
  by_cases isFebruary : monthFromMarch = 11
  · rw [if_pos isFebruary] at days
    have isSecond : (monthOfYear monthFromMarch).toNat = 2 := by
      rw [isFebruary]
      decide
    rw [isSecond, monthLength, if_pos rfl]
    by_cases isLast : day = 29
    · rw [if_pos (leap isFebruary isLast)]
      omega
    · split <;> omega
  · obtain ⟨first, last⟩ := months
    unfold monthOfYear
    interval_cases monthFromMarch <;> simp [monthLength] at days isFebruary ⊢ <;> omega

section DateOfDay

variable {marchYear dayOfYear : Int}

private theorem dayOfYear_le (isDay : 0 ≤ dayOfYear ∧ dayOfYear ≤ lastDay (marchYear % 400)) :
    0 ≤ dayOfYear ∧ dayOfYear ≤ 365 := by
  unfold lastDay at isDay
  split at isDay <;> omega

/-- The fields of the date of a day, and that they name a day. -/
theorem dateOfDay_fields (isDay : 0 ≤ dayOfYear ∧ dayOfYear ≤ lastDay (marchYear % 400)) :
    (dateOfDay marchYear dayOfYear).Valid ∧ (dateOfDay marchYear dayOfYear).marchYear = marchYear ∧
      (dateOfDay marchYear dayOfYear).dayOfYear = dayOfYear := by
  obtain ⟨monthFromMarch, isMonth, months, days, leapDay⟩ := within_monthOfDay (dayOfYear_le isDay)
  generalize isDayOfMonth : dayOfYear - daysBeforeMonth monthFromMarch + 1 = day at days leapDay
  have date : dateOfDay marchYear dayOfYear =
      ⟨if monthOfYear monthFromMarch ≤ 2 then marchYear + 1 else marchYear,
        (monthOfYear monthFromMarch).toNat, day.toNat⟩ := by
    simp only [dateOfDay, isMonth, isDayOfMonth]
  have monthBounds : 1 ≤ monthOfYear monthFromMarch ∧ monthOfYear monthFromMarch ≤ 12 := by
    unfold monthOfYear
    split <;> omega
  have sameMonth : (dateOfDay marchYear dayOfYear).monthFromMarch = monthFromMarch := by
    rw [date, Date.monthFromMarch]
    dsimp only
    unfold monthOfYear
    split <;> omega
  refine ⟨?valid, ?year, ?day⟩
  case valid =>
    have short : day ≤ monthLength
        (if monthOfYear monthFromMarch ≤ 2 then marchYear + 1 else marchYear)
        (monthOfYear monthFromMarch).toNat := by
      apply le_monthLength months days
      intro isFebruary isLast
      rw [isFebruary, if_pos (by decide)]
      apply isLeapYear_of_lastDay
      rw [leapDay isFebruary isLast] at isDay
      exact isDay.2
    rw [date]
    refine ⟨?_, ?_, ?_, ?_⟩ <;> dsimp only <;> omega
  case year =>
    rw [date, Date.marchYear]
    dsimp only
    split_ifs <;> omega
  case day =>
    rw [Date.dayOfYear, sameMonth, date]
    dsimp only
    omega

end DateOfDay

/-- The year that a day lies in, when years begin in March, and its place in it. -/
theorem exists_dayOfYear (days : Int) :
    ∃ marchYear dayOfYear, (0 ≤ dayOfYear ∧ dayOfYear ≤ lastDay (marchYear % 400)) ∧
      Date.ofDays days = dateOfDay marchYear dayOfYear ∧
      days = marchYear / 400 * 146097 + (daysBefore (marchYear % 400) + dayOfYear) - 719468 := by
  obtain ⟨era, dayOfEra, isEra, isDayOfEra, inEra⟩ :
      ∃ era dayOfEra, (days + 719468) / 146097 = era ∧ days + 719468 - era * 146097 = dayOfEra ∧
        0 ≤ dayOfEra ∧ dayOfEra < 146097 := ⟨_, _, rfl, rfl, by omega, by omega⟩
  obtain ⟨fromFirst, toLast⟩ := yearOfDay_bounds inEra
  have inYear : (yearOfDay dayOfEra + era * 400) % 400 = yearOfDay dayOfEra := by omega
  refine ⟨yearOfDay dayOfEra + era * 400, dayOfEra - daysBefore (yearOfDay dayOfEra), ?_, ?_, ?_⟩
  · rw [inYear]
    exact within_yearOfDay inEra
  · simp only [ofDays_eq, isEra, isDayOfEra]
  · rw [inYear]
    omega

/-- Every day has a date. -/
theorem valid_ofDays (days : Int) : (Date.ofDays days).Valid := by
  obtain ⟨marchYear, dayOfYear, isDay, isDate, -⟩ := exists_dayOfYear days
  rw [isDate]
  exact (dateOfDay_fields isDay).1

/-- The date of a day is that many days after 1970-01-01. -/
theorem toDays_ofDays (days : Int) : (Date.ofDays days).toDays = days := by
  obtain ⟨marchYear, dayOfYear, isDay, isDate, isCount⟩ := exists_dayOfYear days
  obtain ⟨-, sameYear, sameDay⟩ := dateOfDay_fields isDay
  rw [isDate, Date.toDays_eq, sameYear, sameDay]
  exact isCount.symm

/-! ### First days of years -/

/-- The day on which a year begins. -/
def newYear (year : Int) : Int :=
  365 * (year - 1) + (year - 1) / 4 - (year - 1) / 100 + (year - 1) / 400 - 719162

theorem newYear_mono {year other : Int} (ordered : year ≤ other) :
    newYear year ≤ newYear other := by
  unfold newYear
  omega

/-- January and February come at the end of a year that begins in March. -/
theorem dayOfYear_halves {date : Date} (valid : date.Valid) :
    (date.month ≤ 2 → 306 ≤ date.dayOfYear) ∧ (2 < date.month → date.dayOfYear ≤ 305) := by
  obtain ⟨fromFirst, toLast⟩ := Date.day_bounds valid
  obtain ⟨fromJanuary, toDecember, -, -⟩ := valid
  have short : lengthFromMarch date.monthFromMarch ≤ 31 := by
    unfold lengthFromMarch
    split_ifs <;> decide
  unfold Date.dayOfYear daysBeforeMonth
  unfold Date.monthFromMarch at *
  omega

/-- A date lies between the first day of its year and that of the next. -/
theorem within_year {date : Date} (valid : date.Valid) :
    newYear date.year ≤ date.toDays ∧ date.toDays < newYear (date.year + 1) := by
  obtain ⟨fromStart, toEnd⟩ := Date.dayOfYear_within valid
  obtain ⟨lateHalf, earlyHalf⟩ := dayOfYear_halves valid
  have short : lastDay (date.marchYear % 400) ≤ 365 := by
    unfold lastDay
    split <;> decide
  have marchYear : date.month ≤ 2 ∧ date.marchYear = date.year - 1 ∨
      2 < date.month ∧ date.marchYear = date.year := by
    unfold Date.marchYear
    split <;> omega
  have place : date.toDays = 365 * date.marchYear + date.marchYear / 4 - date.marchYear / 100 +
      date.marchYear / 400 + date.dayOfYear - 719468 := by
    rw [date.toDays_eq]
    unfold daysBefore
    omega
  unfold newYear
  omega

/-- Which years a day is not before. -/
theorem le_year_ofDays_iff {year days : Int} :
    year ≤ (Date.ofDays days).year ↔ newYear year ≤ days := by
  obtain ⟨fromFirst, beforeNext⟩ := within_year (valid_ofDays days)
  rw [toDays_ofDays] at fromFirst beforeNext
  constructor
  · intro notLater
    exact Int.le_trans (newYear_mono notLater) fromFirst
  · intro begun
    by_contra later
    have := newYear_mono (show (Date.ofDays days).year + 1 ≤ year by omega)
    omega

end EventConsole.Time
