import EventConsole.Proofs.Time.Instant
import EventConsole.Proofs.Time.Rfc3339
import EventConsole.Time.Rfc3339

/-!
Contract: how long ago an instant was, and the words for it.

The distance to a later instant counts the leap second at its ends, and no other.
So a newer instant has the smaller distance where there is no leap second, and
else may be ahead by less than two seconds.

Owns: the distances of two instants in order, the fraction of a stamp that was
read, and which words tell of less than five minutes.
-/

namespace EventConsole.Time

open EventConsole.Text

namespace Instant

/-! ### Distances -/

theorem isLeap_iff {a : Instant} : a.isLeap = true ↔ nanosPerSecond ≤ a.nanos := by
  simp [isLeap]

section Order

variable {now newer older : Instant} (noLater : newer.before older = false)
include noLater

/-- Without leap seconds a newer instant is at the smaller distance. -/
theorem since_le_of_not_before (plainNow : now.isLeap = false) (plainNewer : newer.isLeap = false)
    (plainOlder : older.isLeap = false) : now.since newer ≤ now.since older := by
  have small : older.nanos < nanosPerSecond := by
    rw [← Bool.not_eq_true, isLeap_iff] at plainOlder
    omega
  rw [← Bool.not_eq_true, before_iff] at noLater
  simp only [since, plainNow, plainNewer, plainOlder, Bool.and_false, Bool.false_eq_true, if_false]
  unfold nanosPerSecond at *
  omega

/-- Leap seconds put a newer instant ahead by less than two seconds. -/
theorem since_lt_of_not_before (small : older.nanos < 2 * nanosPerSecond) :
    now.since newer < now.since older + 2 * nanosPerSecond := by
  rw [← Bool.not_eq_true, before_iff] at noLater
  have newerLeap := isLeap_iff (a := newer)
  have olderLeap := isLeap_iff (a := older)
  simp only [since, Bool.and_eq_true, decide_eq_true_eq, newerLeap, olderLeap]
  unfold secondOfDay secondsPerDay nanosPerSecond at *
  split_ifs <;> omega

end Order

/-- A newer instant is fewer whole seconds ago, if there is no leap second. -/
theorem secondsSince_le_of_not_before {now newer older : Instant}
    (noLater : newer.before older = false) (plainNow : now.isLeap = false)
    (plainNewer : newer.isLeap = false) (plainOlder : older.isLeap = false) :
    now.secondsSince newer ≤ now.secondsSince older :=
  Int.tdiv_le_tdiv (by decide) (since_le_of_not_before noLater plainNow plainNewer plainOlder)

/-- Cutting to whole seconds does not reach a positive bound. -/
theorem secondsSince_lt_iff {now seen : Instant} {seconds : Int} (positive : 0 < seconds) :
    now.secondsSince seen < seconds ↔ now.since seen < seconds * nanosPerSecond := by
  have scale : (0 : Int) < nanosPerSecond := by decide
  rw [secondsSince]
  rcases Int.le_total 0 (now.since seen) with ahead | behind
  · rw [Int.tdiv_eq_ediv_of_nonneg ahead, Int.ediv_lt_iff_lt_mul scale]
  · have cut := Int.tdiv_le_tdiv scale behind
    rw [Int.zero_tdiv] at cut
    have bound := Int.mul_pos positive scale
    omega

end Instant

/-- A stamp that was read has a fraction of less than two seconds. -/
theorem Rfc3339.nanos_lt_of_parse? {text : List Char} {stamp : Stamp}
    (isRead : parse? text = some stamp) : stamp.instant.nanos < 2 * nanosPerSecond := by
  obtain ⟨fields, inRange, isStamp⟩ := Fields.exists_of_parse? isRead
  have small := inRange.nanos
  unfold Fields.stamp? assemble? at isStamp
  split at isStamp
  case isTrue =>
    obtain rfl := Option.some.inj isStamp
    dsimp only
    split <;> omega
  case isFalse => contradiction

/-! ### Words -/

/-- Words for an age of less than five minutes. -/
def IsRecentWords (words : String) : Prop :=
  words = "just now" ∨ ∃ minutes : Nat, minutes < 5 ∧ words = toString minutes ++ " min ago"

/-- The words of an age are told apart by their ends. -/
theorem isRecentWords_minutes_iff {minutes : Nat} :
    IsRecentWords (toString minutes ++ " min ago") ↔ minutes < 5 := by
  constructor
  · rintro (isNow | ⟨fewer, isFew, same⟩)
    · have ends := congrArg (fun words => words.toList.reverse.head?) isNow
      simp at ends
    · have sameDigits : minutes.repr = fewer.repr := by simpa using same
      have sameNumber := congrArg (fun words => decimalValue words.toList) sameDigits
      simp only [Nat.toList_repr, decimalValue_toDigits] at sameNumber
      rwa [sameNumber]
  · exact fun isFew => .inr ⟨minutes, isFew, rfl⟩

private theorem not_isRecentWords {count unit : String}
    (unitLong : unit = " h ago" ∨ unit = " d ago") : ¬ IsRecentWords (count ++ unit) := by
  rintro (isNow | ⟨minutes, -, isMinutes⟩)
  · have ends := congrArg (fun words => words.toList.reverse.head?) isNow
    rcases unitLong with rfl | rfl <;> simp at ends
  · have ends := congrArg (fun words => words.toList.reverse[4]?) isMinutes
    rcases unitLong with rfl | rfl <;> simp at ends

/-- The words tell of less than five minutes when the age is less. -/
theorem isRecentWords_ago_iff {seen now : Instant} :
    IsRecentWords (ago seen now) ↔ now.secondsSince seen < 300 := by
  unfold ago
  simp only
  generalize now.secondsSince seen = seconds
  split
  case isTrue justNow => exact ⟨fun _ => by omega, fun _ => .inl rfl⟩
  case isFalse =>
    split
    case isTrue =>
      obtain ⟨minutes, isMinutes⟩ := Int.eq_ofNat_of_zero_le (show 0 ≤ seconds / 60 by omega)
      rw [isMinutes]
      exact isRecentWords_minutes_iff.trans (by omega)
    case isFalse =>
      have late : ¬ seconds < 300 := by omega
      split
      case isTrue => exact iff_of_false (not_isRecentWords (.inl rfl)) late
      case isFalse => exact iff_of_false (not_isRecentWords (.inr rfl)) late

theorem ago_eq_five {seen now : Instant}
    (minutes : 300 ≤ now.secondsSince seen ∧ now.secondsSince seen < 360) :
    ago seen now = "5 min ago" := by
  have isFive : now.secondsSince seen / 60 = 5 := by omega
  simp only [ago, isFive]
  rfl

end EventConsole.Time
