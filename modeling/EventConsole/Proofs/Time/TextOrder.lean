import EventConsole.Proofs.Time.Seconds

/-!
Contract: stamps written to the second sort as texts in the order of their times.

Fields of fixed width compare as their numbers, and a stamp names its fields from
the greatest to the least. So the order of texts is that of fields, and this is
the order of instants.

Owns: dates in order, the fields of instants in order, and the order of the texts
of the years 0 to 9999 on the universal clock.

Does not own: stamps with an offset or a fraction.
-/

namespace EventConsole.Time

open EventConsole.Text

/-! ### Dates in order -/

namespace Date

/-- Year, month and day decide in turn. -/
def Before (a b : Date) : Prop :=
  a.year < b.year ∨ a.year = b.year ∧ (a.month < b.month ∨ a.month = b.month ∧ a.day < b.day)

variable {a b : Date}

/-- A month ends before the next one begins. -/
theorem dayOfYear_lt_of_month_lt (valid : a.Valid) (otherValid : b.Valid)
    (earlier : a.monthFromMarch < b.monthFromMarch) : a.dayOfYear < b.dayOfYear := by
  have days := day_bounds valid
  have otherDays := day_bounds otherValid
  obtain ⟨first, -⟩ := a.monthFromMarch_bounds
  obtain ⟨-, last⟩ := b.monthFromMarch_bounds
  unfold dayOfYear daysBeforeMonth
  generalize a.monthFromMarch = month at days first earlier ⊢
  generalize b.monthFromMarch = other at otherDays last earlier ⊢
  have short : month ≤ 10 := by omega
  unfold lengthFromMarch at days
  interval_cases month <;> simp at days <;> omega

/-- The months of one year lie in the order of their numbers. -/
theorem toDays_lt_of_month_lt (valid : a.Valid) (otherValid : b.Valid) (sameYear : a.year = b.year)
    (earlier : a.month < b.month) : a.toDays < b.toDays := by
  have within := dayOfYear_within valid
  have otherWithin := dayOfYear_within otherValid
  rw [a.toDays_eq, b.toDays_eq]
  -- Between February and March a new year of the count from March begins.
  by_cases acrossMarch : a.month ≤ 2 ∧ 2 < b.month
  · have year : a.marchYear = b.marchYear - 1 := by
      rw [marchYear, marchYear, if_pos acrossMarch.1, if_neg (by omega), sameYear]
    unfold daysBefore lastDay at *
    split_ifs at within <;> omega
  · have year : a.marchYear = b.marchYear := by
      unfold marchYear
      split_ifs <;> omega
    have month : a.monthFromMarch < b.monthFromMarch := by
      have fromJanuary := valid.1
      have toDecember := otherValid.2.1
      unfold monthFromMarch
      omega
    have days := dayOfYear_lt_of_month_lt valid otherValid month
    rw [year]
    omega

private theorem before_of_toDays_lt (valid : a.Valid) (otherValid : b.Valid)
    (earlier : a.toDays < b.toDays) : a.Before b := by
  have year := within_year valid
  have otherYear := within_year otherValid
  rcases Int.lt_trichotomy a.year b.year with less | same | more
  · exact .inl less
  · refine .inr ⟨same, ?_⟩
    rcases Nat.lt_trichotomy a.month b.month with less | sameMonth | more
    · exact .inl less
    · refine .inr ⟨sameMonth, ?_⟩
      simp only [toDays, same, sameMonth] at earlier
      omega
    · have := toDays_lt_of_month_lt otherValid valid same.symm more
      omega
  · -- The later year would have begun before the earlier one ended.
    have := newYear_mono (show b.year + 1 ≤ a.year by omega)
    omega

end Date

/-! ### Numbers in order -/

/-- The lesser number has the lesser text; of equal numbers what follows decides. -/
theorem zeroPadded_append_lt {width m n : Nat} (filled : 0 < width) (small : m < powerOf 10 width)
    (otherSmall : n < powerOf 10 width) {rest other : List Char}
    (inOrder : m < n ∨ m = n ∧ rest < other) :
    zeroPadded width m ++ rest < zeroPadded width n ++ other := by
  rcases inOrder with less | ⟨rfl, restLess⟩
  · apply append_lt_of_decimalValue_lt (fun _ => decimalDigit_of_mem_zeroPadded)
      (fun _ => decimalDigit_of_mem_zeroPadded)
    · rw [length_zeroPadded filled small, length_zeroPadded filled otherSmall]
    · rwa [decimalValue_zeroPadded, decimalValue_zeroPadded]
  · exact List.append_left_lt restLess

/-- So it is also before a mark. -/
theorem zeroPadded_mark_lt {width m n : Nat} (filled : 0 < width) (small : m < powerOf 10 width)
    (otherSmall : n < powerOf 10 width) (mark : Char) {rest other : List Char}
    (inOrder : m < n ∨ m = n ∧ rest < other) :
    zeroPadded width m ++ mark :: rest < zeroPadded width n ++ mark :: other :=
  zeroPadded_append_lt filled small otherSmall
    (inOrder.imp_right (And.imp_right fun less => List.cons_lt_cons_iff.mpr (.inr ⟨rfl, less⟩)))

/-! ### Fields in order -/

namespace Rfc3339.Fields

/-- From the year to the second the fields decide in turn. -/
def Before (a b : Fields) : Prop :=
  a.date.year < b.date.year ∨ a.date.year = b.date.year ∧
    (a.date.month < b.date.month ∨ a.date.month = b.date.month ∧
      (a.date.day < b.date.day ∨ a.date.day = b.date.day ∧
        (a.hour < b.hour ∨ a.hour = b.hour ∧
          (a.minute < b.minute ∨ a.minute = b.minute ∧ a.second < b.second))))

private theorem before_of_date {a b : Fields} (before : a.date.Before b.date) : a.Before b := by
  rcases before with year | ⟨sameYear, month | ⟨sameMonth, day⟩⟩
  · exact .inl year
  · exact .inr ⟨sameYear, .inl month⟩
  · exact .inr ⟨sameYear, .inr ⟨sameMonth, .inl day⟩⟩

private theorem InRange.two_digits {fields : Fields} (inRange : fields.InRange) :
    fields.date.month < 100 ∧ fields.date.day < 100 ∧ fields.hour < 100 ∧ fields.minute < 100 ∧
      fields.second < 100 := by
  obtain ⟨-, ⟨-, toDecember, -, toLast⟩, hour, minute, second, -, -⟩ := inRange
  unfold monthLength at toLast
  split_ifs at toLast <;> omega

/-- Fields in order have texts in order, whatever their zones. -/
theorem textWith_lt {a b : Fields} (inRange : a.InRange) (otherInRange : b.InRange)
    (before : a.Before b) (zone otherZone : List Char) :
    a.textWith zone < b.textWith otherZone := by
  have years := inRange.year
  have otherYears := otherInRange.year
  obtain ⟨month, day, hour, minute, second⟩ := inRange.two_digits
  obtain ⟨otherMonth, otherDay, otherHour, otherMinute, otherSecond⟩ := otherInRange.two_digits
  have two {m n : Nat} (small : m < 100) (otherSmall : n < 100) (mark : Char)
      {rest other : List Char} (inOrder : m < n ∨ m = n ∧ rest < other) :
      zeroPadded 2 m ++ mark :: rest < zeroPadded 2 n ++ mark :: other :=
    zeroPadded_mark_lt (by decide) small otherSmall mark inOrder
  apply zeroPadded_mark_lt (by decide) (show a.date.year.toNat < 10000 by omega)
    (show b.date.year.toNat < 10000 by omega)
  refine before.imp (fun earlier => by omega) (And.imp (congrArg Int.toNat) fun before => ?_)
  refine two month otherMonth '-' (before.imp_right (And.imp_right fun before => ?_))
  refine two day otherDay 'T' (before.imp_right (And.imp_right fun before => ?_))
  refine two hour otherHour ':' (before.imp_right (And.imp_right fun before => ?_))
  refine two minute otherMinute ':' (before.imp_right (And.imp_right fun earlier => ?_))
  exact zeroPadded_append_lt (by decide) second otherSecond (.inl earlier)

end Rfc3339.Fields

/-! ### Instants in order -/

namespace Instant

variable {a b : Instant}

/-- Only the last second of a minute has a leap second after it. -/
theorem leapSecond_cases (onScale : a.OnScale) :
    a.leapSecond = 0 ∨ a.leapSecond = 1 ∧ a.seconds % 60 = 59 := by
  have few := a.leapSecond_le
  unfold OnScale nanosPerSecond at *
  omega

/-- So seconds are in order where they are counted and where they are shown. -/
theorem fields_before (onScale : a.OnScale) (earlier : a.wholeSecond.before b.wholeSecond = true) :
    a.fields.Before b.fields := by
  obtain ⟨ofMinute, small, isRest, isSecond, isCount⟩ := a.seconds_clock
  obtain ⟨otherOfMinute, otherSmall, -, isOtherSecond, isOtherCount⟩ := b.seconds_clock
  have leap := leapSecond_cases onScale
  have hour := hour_clock_lt a 0
  have otherHour := hour_clock_lt b 0
  have minute : (a.clock 0).minute < 60 := Nat.mod_lt _ (by decide)
  have otherMinute : (b.clock 0).minute < 60 := Nat.mod_lt _ (by decide)
  rw [wholeSecond_eq, wholeSecond_eq, before_iff] at earlier
  dsimp only at earlier
  change (a.clock 0).second = ofMinute + a.leapSecond at isSecond
  change (b.clock 0).second = otherOfMinute + b.leapSecond at isOtherSecond
  have valid : (a.clock 0).date.Valid := valid_ofDays _
  have otherValid : (b.clock 0).date.Valid := valid_ofDays _
  unfold secondsPerDay at isCount isOtherCount
  unfold nanosPerSecond at earlier
  rcases Int.lt_trichotomy (a.clock 0).date.toDays (b.clock 0).date.toDays with less | same | more
  · exact Rfc3339.Fields.before_of_date (Date.before_of_toDays_lt valid otherValid less)
  · have sameDate : (a.clock 0).date = (b.clock 0).date := by
      rw [← ofDays_toDays valid, ← ofDays_toDays otherValid, same]
    -- On one date only the time of day is left to compare.
    simp only [Rfc3339.Fields.Before, fields, sameDate, lt_irrefl, true_and, false_or]
    omega
  · omega

/-- Of two instants on the time scale the text of the earlier second is the lesser. -/
theorem secondsText_lt (onScale : a.OnScale) (years : 0 ≤ a.year ∧ a.year ≤ 9999)
    (otherYears : 0 ≤ b.year ∧ b.year ≤ 9999)
    (earlier : a.wholeSecond.before b.wholeSecond = true) :
    Stamp.secondsText ⟨a, 0⟩ < Stamp.secondsText ⟨b, 0⟩ := by
  rw [secondsText_eq years, secondsText_eq otherYears]
  exact Rfc3339.Fields.textWith_lt (inRange_fields years) (inRange_fields otherYears)
    (fields_before onScale earlier) _ _

end Instant

end EventConsole.Time
