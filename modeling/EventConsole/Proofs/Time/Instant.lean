import EventConsole.Time.Instant

/-!
Contract: the order of instants is total, and the clock stays within a day.

Owns: `before` as an order of seconds and fractions, the distance to a later
instant, and the hours that a clock shows.
-/

namespace EventConsole.Time.Instant

/-! ### Order -/

theorem before_iff {a b : Instant} :
    a.before b = true ↔ a.seconds < b.seconds ∨ a.seconds = b.seconds ∧ a.nanos < b.nanos := by
  simp [before]

theorem not_before_self (a : Instant) : a.before a = false := by
  rw [← Bool.not_eq_true, before_iff]
  omega

/-- What is no later than an instant is no later than one that is no earlier. -/
theorem not_before_trans {a b c : Instant} (noLater : a.before b = false)
    (stillNoLater : b.before c = false) : a.before c = false := by
  rw [← Bool.not_eq_true, before_iff] at *
  omega

theorem not_before_of_before {a b : Instant} (earlier : a.before b = true) :
    b.before a = false := by
  rw [← Bool.not_eq_true, before_iff]
  rw [before_iff] at earlier
  omega

/-- Of two instants that are not before each other there is but one. -/
theorem eq_of_not_before {a b : Instant} (notEarlier : a.before b = false)
    (notLater : b.before a = false) : a = b := by
  rw [← Bool.not_eq_true, before_iff] at notEarlier notLater
  obtain ⟨seconds, nanos⟩ := a
  obtain ⟨otherSeconds, otherNanos⟩ := b
  dsimp only at notEarlier notLater
  rw [mk.injEq]
  omega

/-- Before a later instant the distance is at most the fraction, since a leap second
makes up for no more than one second between them. -/
theorem since_le_of_before {a b : Instant} (earlier : a.before b = true) : a.since b ≤ a.nanos := by
  rw [before_iff] at earlier
  unfold since
  rcases earlier with earlierSecond | ⟨sameSecond, earlierFraction⟩
  · have leap : (if (b.secondOfDay < a.secondOfDay && b.isLeap) = true then (1 : Int)
        else if (a.secondOfDay < b.secondOfDay && a.isLeap) = true then -1 else 0) ≤ 1 := by
      split
      · exact Int.le_refl 1
      · split <;> decide
    dsimp only
    unfold nanosPerSecond
    omega
  · have sameTime : a.secondOfDay = b.secondOfDay := by
      unfold secondOfDay
      rw [sameSecond]
    simp only [sameTime, sameSecond, Int.lt_irrefl, decide_false, Bool.false_and,
      Bool.false_eq_true, if_false]
    omega

/-! ### Clocks -/

theorem hour_clock_lt (a : Instant) (offset : Int) : (a.clock offset).hour < 24 := by
  simp only [clock, secondsPerDay]
  omega

end EventConsole.Time.Instant
