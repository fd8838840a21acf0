import EventConsole.Proofs.Demo.Sample
import Mathlib.Data.List.Forall2

/-!
Contract: a seed stands for one stream of events, which the time only shifts.

How many events are asked for says where the stream is cut off. The time of asking
says when the events happened, and nothing that was drawn.

Owns: the beginnings of a stream, what the events at one place have in common at
two times, and how long before each time they lie.

Does not own: that the events are well formed.
-/

namespace EventConsole.Demo

open Json

/-! ### Beginnings -/

namespace Sample

private theorem take_drawMany {count more : Nat} (fewer : count ≤ more) (source : Random.Source) :
    (drawMany more source).take count = drawMany count source := by
  induction count generalizing more source with
  | zero => rfl
  | succ count inductionHypothesis =>
      obtain ⟨rest, rfl⟩ := Nat.exists_eq_add_of_le' (Nat.le_trans (Nat.succ_pos count) fewer)
      rw [drawMany, drawMany, List.take_succ_cons,
        inductionHypothesis (Nat.le_of_succ_le_succ fewer)]

end Sample

private theorem take_generate {count more : Nat} (fewer : count ≤ more) (seed : UInt64)
    (now : Time.Instant) : (generate more seed now).take count = generate count seed now := by
  rw [generate, ← List.map_take, Sample.take_drawMany fewer, generate]

/-! ### Two times -/

/-- The members of an event whose texts are drawn. -/
def drawnNames : List String :=
  ["agent_id", "event_type", "severity", "user", "process", "source", "source_ip", "hostname",
    "message", "command"]

/-- An event is stamped with the instant some seconds before `now`. Their distance
is as many seconds, unless `now` is a leap second that does not end a day. -/
def StampedBack (now : Time.Instant) (back : Nat) (event : Value) : Prop :=
  ∃ text stamp, event.member? "timestamp" = some (.string text) ∧
    Time.Rfc3339.parse? text.toList = some stamp ∧
    stamp.instant = now.minusSeconds back ∧
    ((now.isLeap = true → now.secondOfDay = 86399) →
      now.since stamp.instant = back * Time.nanosPerSecond)

/-- Two events that were drawn alike, one for each of two times. -/
structure DrawnAlike (now other : Time.Instant) (event twin : Value) : Prop where
  texts : ∀ name ∈ drawnNames, ∃ text,
    event.member? name = some (.string text) ∧ twin.member? name = some (.string text)
  suffix : ∃ (suffix : Nat) (nanos otherNanos : Int),
    event.member? "_id" = some (.string (toString nanos ++ "-" ++ toString suffix)) ∧
      twin.member? "_id" = some (.string (toString otherNanos ++ "-" ++ toString suffix))
  shifted : now.IsWhole → other.IsWhole →
    ∃ back < 86400, StampedBack now back event ∧ StampedBack other back twin

namespace Sample

private theorem texts_record (sample : Sample) (now other : Time.Instant) :
    ∀ name ∈ drawnNames, ∃ text, (sample.record now).member? name = some (.string text) ∧
      (sample.record other).member? name = some (.string text) := by
  simp only [drawnNames, List.forall_mem_cons]
  exact ⟨⟨_, rfl, rfl⟩, ⟨_, rfl, rfl⟩, ⟨_, rfl, rfl⟩, ⟨_, rfl, rfl⟩, ⟨_, rfl, rfl⟩, ⟨_, rfl, rfl⟩,
    ⟨_, rfl, rfl⟩, ⟨_, rfl, rfl⟩, ⟨_, rfl, rfl⟩, ⟨_, rfl, rfl⟩, nofun⟩

private theorem stampedBack_record {sample : Sample} (within : sample.WithinDraws)
    {now : Time.Instant} (years : 1 ≤ now.year ∧ now.year ≤ 9999) (whole : now.IsWhole) :
    StampedBack now sample.secondsAgo (sample.record now) := by
  have onScale := Time.Instant.onScale_of_isWhole whole
  have isRead := parse?_stampText onScale years within
  rw [instant, Time.Instant.wholeSecond_minusSeconds_of_isWhole whole] at isRead
  exact ⟨_, _, rfl, isRead, rfl, fun atDayEnd =>
    Time.Instant.since_minusSeconds onScale atDayEnd _⟩

private theorem drawnAlike_record {sample : Sample} (within : sample.WithinDraws)
    {now other : Time.Instant}
    (years : 1 ≤ now.year ∧ now.year ≤ 9999) (otherYears : 1 ≤ other.year ∧ other.year ≤ 9999) :
    DrawnAlike now other (sample.record now) (sample.record other) where
  texts := sample.texts_record now other
  suffix := ⟨sample.suffix, _, _, rfl, rfl⟩
  shifted := fun whole otherWhole => ⟨sample.secondsAgo, within.secondsAgo,
    stampedBack_record within years whole, stampedBack_record within otherYears otherWhole⟩

end Sample

/-- A stream at two times has the same events in the same places. -/
theorem forall₂_drawnAlike_generate (count : Nat) (seed : UInt64) {now other : Time.Instant}
    (years : 1 ≤ now.year ∧ now.year ≤ 9999) (otherYears : 1 ≤ other.year ∧ other.year ≤ 9999) :
    List.Forall₂ (DrawnAlike now other) (generate count seed now) (generate count seed other) := by
  rw [generate, generate, List.forall₂_map_left_iff, List.forall₂_map_right_iff, List.forall₂_same]
  intro sample member
  have within := Sample.withinDraws_of_mem count (Random.Source.ofSeed seed) sample member
  exact Sample.drawnAlike_record within years otherYears

/-- For every seed: fewer events are the beginning of more, and other times give the
same events, as long before. -/
theorem oneStream_generate (seed : UInt64) :
    (∀ now count more, count ≤ more → (generate more seed now).length = more ∧
        generate count seed now = (generate more seed now).take count) ∧
      ∀ count now other, 1 ≤ now.year ∧ now.year ≤ 9999 → 1 ≤ other.year ∧ other.year ≤ 9999 →
        List.Forall₂ (DrawnAlike now other) (generate count seed now)
          (generate count seed other) := by
  constructor
  · intro now count more fewer
    exact ⟨length_generate more seed now, (take_generate fewer seed now).symm⟩
  · intro count now other years otherYears
    exact forall₂_drawnAlike_generate count seed years otherYears

/-- The leap second at the end of 2016. -/
def leapSecond : Time.Instant := ⟨1483228799, 1000000000⟩

/-- 2024-05-01, 12:00 on the universal clock. -/
def mayNoon : Time.Instant := ⟨1714564800, 0⟩

theorem oneStream_leapSecond :
    leapSecond.IsWhole ∧ mayNoon.IsWhole ∧
      generate 2 7 leapSecond = (generate 3 7 leapSecond).take 2 ∧
      List.Forall₂ (DrawnAlike leapSecond mayNoon) (generate 3 7 leapSecond)
        (generate 3 7 mayNoon) :=
  ⟨.inr ⟨rfl, by decide⟩, .inl rfl, ((oneStream_generate 7).1 leapSecond 2 3 (by decide)).2,
    (oneStream_generate 7).2 3 leapSecond mayNoon (by decide) (by decide)⟩

end EventConsole.Demo
