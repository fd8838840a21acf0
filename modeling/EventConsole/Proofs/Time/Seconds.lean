import EventConsole.Proofs.Time.Calendar
import EventConsole.Proofs.Time.Instant
import EventConsole.Proofs.Time.Rfc3339

/-!
Contract: an instant written to the second, and instants some seconds earlier.

What is written is the second that the instant lies in. A leap second is a second
of its own, so that it is written and read as second 60, and counts once when it
is left.

Owns: whole seconds, their text read again, and the place on the time scale of
what lies some seconds back.

Does not own: stamps with an offset or a fraction.
-/

namespace EventConsole.Time

namespace Instant

/-- The fraction is less than a second, or runs on through the leap second that
ends a minute. -/
def OnScale (a : Instant) : Prop :=
  a.nanos < nanosPerSecond ∨ a.seconds % 60 = 59 ∧ a.nanos < 2 * nanosPerSecond

/-- The year on the universal clock. -/
def year (a : Instant) : Int := (a.clock 0).date.year

/-- The beginning of the second that an instant lies in. -/
def wholeSecond (a : Instant) : Instant := ⟨a.seconds, if a.isLeap then nanosPerSecond else 0⟩

theorem le_year_iff {a : Instant} {year : Int} :
    year ≤ a.year ↔ newYear year ≤ a.seconds / secondsPerDay := by
  rw [Instant.year, clock, Int.add_zero]
  exact le_year_ofDays_iff

/-! ### The clock of an instant -/

/-- What is written of an instant to the second. -/
def fields (a : Instant) : Rfc3339.Fields where
  date := (a.clock 0).date
  hour := (a.clock 0).hour
  minute := (a.clock 0).minute
  second := (a.clock 0).second
  nanos := 0
  offset := 0

/-- The time of day, in the seconds that the clock counts. -/
theorem seconds_clock (a : Instant) :
    ∃ ofMinute : Nat, ofMinute < 60 ∧ (ofMinute : Int) = a.seconds % 60 ∧
      (a.clock 0).second = ofMinute + (if a.isLeap then 1 else 0) ∧
      a.seconds = (a.clock 0).date.toDays * secondsPerDay +
        ((a.clock 0).hour * 3600 + (a.clock 0).minute * 60 + ofMinute : Nat) := by
  refine ⟨(a.seconds % secondsPerDay).toNat % 60, ?_, ?_, ?_, ?_⟩
  · exact Nat.mod_lt _ (by decide)
  · unfold secondsPerDay
    omega
  · rw [clock, Int.add_zero]
  · simp only [clock, Int.add_zero, toDays_ofDays]
    unfold secondsPerDay
    omega

variable {a : Instant}

theorem inRange_fields (years : 0 ≤ a.year ∧ a.year ≤ 9999) : a.fields.InRange where
  year := years
  date := valid_ofDays _
  hour := Nat.le_of_lt_succ (hour_clock_lt a 0)
  minute := by
    simp only [fields, clock]
    omega
  second := by
    obtain ⟨ofMinute, small, -, isSecond, -⟩ := a.seconds_clock
    show (a.clock 0).second ≤ 60
    rw [isSecond]
    split <;> omega
  nanos := show 0 < nanosPerSecond by decide
  offset := ⟨0, rfl, by decide⟩

/-- The fields of an instant make its whole second. -/
theorem stamp?_fields (onScale : a.OnScale) (years : 0 ≤ a.year ∧ a.year ≤ 9999) :
    a.fields.stamp? = some ⟨a.wholeSecond, 0⟩ := by
  have inRange := inRange_fields years
  obtain ⟨ofMinute, small, isRest, isSecond, isCount⟩ := a.seconds_clock
  have lastSecond (leap : a.isLeap = true) : ofMinute = 59 := by
    have fraction : nanosPerSecond ≤ a.nanos := of_decide_eq_true leap
    unfold OnScale at onScale
    omega
  have isLeapSecond : (a.clock 0).second = 60 ↔ a.isLeap = true := by
    cases leap : a.isLeap with
    | true => simp [isSecond, leap, lastSecond leap]
    | false =>
        rw [isSecond, leap]
        simp only [Bool.false_eq_true, if_false, iff_false]
        omega
  have isOfMinute : (if a.isLeap = true then 59 else (a.clock 0).second) = ofMinute := by
    split
    case isTrue leap => exact (lastSecond leap).symm
    case isFalse other => rw [isSecond, if_neg other, Nat.add_zero]
  rw [Rfc3339.Fields.stamp?, Rfc3339.assemble?,
    if_pos ⟨inRange.date, inRange.hour, inRange.minute, inRange.second⟩]
  simp only [fields, isLeapSecond, isOfMinute, Int.sub_zero, ← isCount, Nat.zero_add, wholeSecond]

/-! ### Written and read again -/

theorem secondsText_eq (years : 0 ≤ a.year ∧ a.year ≤ 9999) :
    Stamp.secondsText ⟨a, 0⟩ = a.fields.textWith (offsetText 0) := by
  have year : yearText (a.clock 0).date.year = zeroPadded 4 (a.clock 0).date.year.toNat :=
    if_pos years
  simp [Stamp.secondsText, Stamp.clock, Clock.isoDate, Clock.time, Clock.hourMinute, year, fields,
    Rfc3339.Fields.textWith, fractionText]

/-- An instant of a year of four digits, written to the second, reads as its whole
second. -/
theorem parse?_secondsText (onScale : a.OnScale) (years : 0 ≤ a.year ∧ a.year ≤ 9999) :
    Rfc3339.parse? (Stamp.secondsText ⟨a, 0⟩) = some ⟨a.wholeSecond, 0⟩ := by
  rw [secondsText_eq years]
  apply Rfc3339.Fields.parse?_textWith (inRange_fields years) _ rfl (stamp?_fields onScale years)
  intro c isSign
  obtain rfl : '+' = c := Option.some.inj isSign
  decide

-- A leap second is written as second 60, and its fraction is dropped.
example :
    Rfc3339.parse? (Stamp.secondsText ⟨⟨1483228799, 1500000000⟩, 0⟩) =
      some ⟨⟨1483228799, 1000000000⟩, 0⟩ := by decide

/-! ### Some seconds earlier -/

/-- Seconds that a leap second is behind the count of its fraction. -/
def leapSecond (a : Instant) : Nat := if a.isLeap then 1 else 0

theorem leapSecond_le (a : Instant) :
    a.leapSecond ≤ 1 ∧ a.leapSecond * nanosPerSecond ≤ a.nanos := by
  unfold leapSecond
  split
  case isTrue leap =>
    have fraction : nanosPerSecond ≤ a.nanos := of_decide_eq_true leap
    omega
  case isFalse => omega

/-- Without the leap second less than a second is left. -/
theorem fraction_lt (onScale : a.OnScale) :
    a.nanos - a.leapSecond * nanosPerSecond < nanosPerSecond := by
  unfold leapSecond
  split
  case isTrue =>
    unfold OnScale at onScale
    omega
  case isFalse notLeap =>
    have fraction : ¬ nanosPerSecond ≤ a.nanos := fun leap => notLeap (decide_eq_true leap)
    omega

theorem wholeSecond_eq (a : Instant) :
    a.wholeSecond = ⟨a.seconds, a.leapSecond * nanosPerSecond⟩ := by
  unfold wholeSecond leapSecond
  cases a.isLeap <;> simp

theorem minusSeconds_zero (a : Instant) : a.minusSeconds 0 = a := by
  simp [minusSeconds]

/-- Leaving a leap second takes one of the seconds. -/
theorem minusSeconds_of_pos (a : Instant) {back : Nat} (some : 0 < back) :
    a.minusSeconds back =
      ⟨a.seconds + a.leapSecond - back, a.nanos - a.leapSecond * nanosPerSecond⟩ := by
  have notZero : back ≠ 0 := Nat.ne_of_gt some
  unfold minusSeconds leapSecond
  cases a.isLeap <;> simp [notZero]

/-- After the first second back no leap second is left. -/
theorem wholeSecond_minusSeconds (onScale : a.OnScale) {back : Nat} (some : 0 < back) :
    (a.minusSeconds back).wholeSecond = ⟨a.seconds + a.leapSecond - back, 0⟩ := by
  have notLeap := Nat.not_le_of_gt (fraction_lt onScale)
  simp [minusSeconds_of_pos a some, wholeSecond, isLeap, notLeap]

theorem onScale_minusSeconds (onScale : a.OnScale) (back : Nat) :
    (a.minusSeconds back).OnScale := by
  rcases Nat.eq_zero_or_pos back with none | some
  · rw [none, minusSeconds_zero]
    exact onScale
  · rw [minusSeconds_of_pos a some]
    exact .inl (fraction_lt onScale)

/-- A day earlier it is the year before at the earliest. -/
theorem year_minusSeconds (years : 1 ≤ a.year ∧ a.year ≤ 9999) {back : Nat}
    (withinDay : back ≤ 86400) :
    0 ≤ (a.minusSeconds back).year ∧ (a.minusSeconds back).year ≤ 9999 := by
  have earlier : a.seconds - 86400 ≤ (a.minusSeconds back).seconds ∧
      (a.minusSeconds back).seconds ≤ a.seconds := by
    rcases Nat.eq_zero_or_pos back with none | some
    · rw [none, minusSeconds_zero]
      omega
    · have few := a.leapSecond_le
      rw [minusSeconds_of_pos a some]
      dsimp only
      omega
  have begun := le_year_iff.mp years.1
  have notEnded : ¬ newYear 10000 ≤ a.seconds / secondsPerDay := by
    rw [← le_year_iff]
    omega
  constructor
  · rw [le_year_iff]
    unfold newYear secondsPerDay at *
    omega
  · by_contra later
    have ended := le_year_iff.mp (show 10000 ≤ (a.minusSeconds back).year by omega)
    unfold newYear secondsPerDay at *
    omega

/-- The whole second of what lies back is not after the instant. -/
theorem not_before_wholeSecond (onScale : a.OnScale) (back : Nat) :
    a.before (a.minusSeconds back).wholeSecond = false := by
  have few := a.leapSecond_le
  rw [← Bool.not_eq_true, before_iff]
  rcases Nat.eq_zero_or_pos back with none | some
  · rw [none, minusSeconds_zero, wholeSecond_eq]
    dsimp only
    omega
  · rw [wholeSecond_minusSeconds onScale some]
    dsimp only
    omega

/-- What lies further back is before the whole second. -/
theorem before_wholeSecond (onScale : a.OnScale) {back further : Nat} (less : back < further) :
    (a.minusSeconds further).before (a.minusSeconds back).wholeSecond = true := by
  have few := a.leapSecond_le
  have small := fraction_lt onScale
  rw [minusSeconds_of_pos a (Nat.zero_lt_of_lt less), before_iff]
  rcases Nat.eq_zero_or_pos back with none | some
  · rw [none, minusSeconds_zero, wholeSecond_eq]
    dsimp only
    -- One second before the end of a leap second is the same count without it.
    rcases Nat.le_one_iff_eq_zero_or_eq_one.mp few.1 with noLeap | leap
    · omega
    · rw [leap] at small ⊢
      omega
  · rw [wholeSecond_minusSeconds onScale some]
    dsimp only
    omega

/-- The distance is that of the counts, or a second less for a leap second. -/
theorem since_le {a b : Instant} (notLeap : b.isLeap = false) :
    a.since b ≤ (a.seconds - b.seconds) * nanosPerSecond + (a.nanos - b.nanos) := by
  have leap : (if (b.secondOfDay < a.secondOfDay && b.isLeap) = true then (1 : Int)
      else if (a.secondOfDay < b.secondOfDay && a.isLeap) = true then -1 else 0) ≤ 0 := by
    rw [notLeap, Bool.and_false, if_neg Bool.false_ne_true]
    split <;> decide
  dsimp only [since]
  unfold nanosPerSecond
  omega

/-- Cutting the fraction off adds less than a second to the distance. -/
theorem since_wholeSecond_lt (onScale : a.OnScale) (back : Nat) :
    a.since (a.minusSeconds back).wholeSecond < (back + 1 : Nat) * nanosPerSecond := by
  have few := a.leapSecond_le
  have small := fraction_lt onScale
  rcases Nat.eq_zero_or_pos back with none | some
  · have same : a.secondOfDay = a.wholeSecond.secondOfDay := rfl
    rw [none, minusSeconds_zero, since, same, wholeSecond_eq]
    simp only [lt_irrefl, decide_false, Bool.false_and, Bool.false_eq_true, if_false]
    omega
  · rw [wholeSecond_minusSeconds onScale some]
    apply Int.lt_of_le_of_lt (since_le rfl)
    unfold nanosPerSecond at *
    dsimp only
    omega

/-! ### Whole seconds -/

/-- The beginning of a second, which may be a leap second. -/
def IsWhole (a : Instant) : Prop :=
  a.nanos = 0 ∨ a.nanos = nanosPerSecond ∧ a.seconds % 60 = 59

theorem onScale_of_isWhole (whole : a.IsWhole) : a.OnScale := by
  unfold IsWhole OnScale nanosPerSecond at *
  omega

/-- Whole seconds are left for whole seconds. -/
theorem wholeSecond_minusSeconds_of_isWhole (whole : a.IsWhole) (back : Nat) :
    (a.minusSeconds back).wholeSecond = a.minusSeconds back := by
  have fraction : a.nanos = a.leapSecond * nanosPerSecond := by
    unfold IsWhole leapSecond isLeap nanosPerSecond at *
    split <;> simp_all <;> omega
  rcases Nat.eq_zero_or_pos back with none | some
  · rw [none, minusSeconds_zero, wholeSecond_eq, ← fraction]
  · rw [wholeSecond_minusSeconds (onScale_of_isWhole whole) some, minusSeconds_of_pos a some,
      fraction, Nat.sub_self]

/-- The distance is the number of seconds that were left, unless these include a
leap second within a day. -/
theorem since_minusSeconds (onScale : a.OnScale)
    (atDayEnd : a.isLeap = true → a.secondOfDay = 86399) (back : Nat) :
    a.since (a.minusSeconds back) = back * nanosPerSecond := by
  rcases Nat.eq_zero_or_pos back with none | some
  · rw [none, minusSeconds_zero]
    simp [since]
  · have few := a.leapSecond_le
    have noLeap : (a.minusSeconds back).isLeap = false := by
      rw [minusSeconds_of_pos a some]
      exact decide_eq_false (Nat.not_le_of_gt (fraction_lt onScale))
    have noneCounted : (decide (a.secondOfDay < (a.minusSeconds back).secondOfDay) && a.isLeap) =
        false := by
      rw [Bool.and_eq_false_imp, decide_eq_true_eq]
      intro earlier
      rw [← Bool.not_eq_true]
      intro leap
      have last := atDayEnd leap
      unfold secondOfDay secondsPerDay at *
      omega
    simp only [since, noLeap, noneCounted, Bool.and_false, Bool.false_eq_true, if_false]
    rw [minusSeconds_of_pos a some]
    dsimp only
    unfold nanosPerSecond at *
    omega

end Instant

end EventConsole.Time
