import EventConsole.Demo.Sample
import EventConsole.Proofs.Demo.Stats
import EventConsole.Proofs.Random.Source
import EventConsole.Proofs.Time.Seconds

/-!
Contract: the statistics count every generated event.

A drawn sample keeps to a few bounds, whatever the source. From them alone its
record is observed, at the whole second of its instant, and is recent. So the
counters see one observation for each sample.

Owns: the bounds of samples, the observation of a record, and the totals of the
counters over generated events.
-/

namespace EventConsole.Demo

open Json EventConsole.Random

namespace Sample

/-! ### Samples -/

/-- What every drawn sample keeps to. -/
structure WithinDraws (sample : Sample) : Prop where
  secondsAgo : sample.secondsAgo < 86400
  user : sample.user ≠ ""
  process : sample.process ≠ ""

private theorem drawSecondsAgo_lt : Always drawSecondsAgo (· < 86400) := by
  unfold drawSecondsAgo
  refine always_bind (below64_lt (by decide)) fun hours inDay => ?_
  refine always_bind (below64_lt (by decide)) fun minutes inHour => ?_
  refine always_bind (below64_lt (by decide)) fun seconds inMinute => ?_
  apply always_pure
  omega

private theorem drawUser_filled : Always drawUser (· ≠ "") :=
  (pick_mem _ _).imp (by decide)

private theorem drawProcess_filled : Always drawProcess (· ≠ "") :=
  (pick_mem _ _).imp (by decide)

private theorem draw_withinDraws : Always draw WithinDraws := by
  unfold draw
  refine always_bind drawSecondsAgo_lt fun secondsAgo inDay => ?_
  refine always_bind (always_any _) fun activity _ => ?_
  refine always_bind (always_any _) fun severity _ => ?_
  refine always_bind drawUser_filled fun user userFilled => ?_
  refine always_bind drawProcess_filled fun process processFilled => ?_
  -- What else is drawn is not bounded here.
  refine always_bind (always_any _) fun ip _ => ?_
  refine always_bind (always_any _) fun port _ => ?_
  refine always_bind (always_any _) fun account _ => ?_
  refine always_bind (always_any _) fun hostname _ => ?_
  refine always_bind (always_any _) fun logPid _ => ?_
  refine always_bind (always_any _) fun suffix _ => ?_
  refine always_bind (always_any _) fun agentId _ => ?_
  refine always_bind (always_any _) fun source _ => ?_
  exact always_pure ⟨inDay, userFilled, processFilled⟩

private theorem length_drawMany (count : Nat) (source : Source) :
    (drawMany count source).length = count := by
  induction count generalizing source with
  | zero => rfl
  | succ count inductionHypothesis =>
      rw [drawMany, List.length_cons, inductionHypothesis]

/-- What holds of any draw holds of each of many. -/
theorem forall_mem_drawMany {holds : Sample → Prop} (always : Always draw holds) (count : Nat)
    (source : Source) : ∀ sample ∈ drawMany count source, holds sample := by
  induction count generalizing source with
  | zero => exact fun _ member => nomatch member
  | succ count inductionHypothesis =>
      rw [drawMany, List.forall_mem_cons]
      exact ⟨always source, inductionHypothesis _⟩

theorem withinDraws_of_mem (count : Nat) (source : Source) :
    ∀ sample ∈ drawMany count source, sample.WithinDraws :=
  forall_mem_drawMany draw_withinDraws count source

/-! ### Records -/

/-- What the statistics see of the record of a sample. -/
def observed (now : Time.Instant) (sample : Sample) : Observation :=
  ⟨sample.agentId, ⟨(sample.instant now).wholeSecond, 0⟩, sample.record now⟩

private theorem field_timestamp_record (sample : Sample) (now : Time.Instant) :
    Stats.field (sample.record now) "timestamp" = stampText (sample.instant now) := rfl

private theorem field_user_record (sample : Sample) (now : Time.Instant) :
    Stats.field (sample.record now) "user" = sample.user := rfl

private theorem field_process_record (sample : Sample) (now : Time.Instant) :
    Stats.field (sample.record now) "process" = sample.process := rfl

section Records

variable {now : Time.Instant} (onScale : now.OnScale)

include onScale

/-- The time of a record is read as it was written. -/
theorem parse?_stampText (years : 1 ≤ now.year ∧ now.year ≤ 9999) {sample : Sample}
    (within : sample.WithinDraws) :
    Time.Rfc3339.parse? (stampText (sample.instant now)).toList =
      some ⟨(sample.instant now).wholeSecond, 0⟩ := by
  rw [stampText, String.toList_ofList]
  exact Time.Instant.parse?_secondsText (Time.Instant.onScale_minusSeconds onScale _)
    (Time.Instant.year_minusSeconds years (Nat.le_of_lt within.secondsAgo))

private theorem observation?_record (years : 1 ≤ now.year ∧ now.year ≤ 9999) {sample : Sample}
    (within : sample.WithinDraws) :
    Stats.observation? (sample.record now) = some (sample.observed now) := by
  rw [Stats.observation?_eq_some_iff]
  refine ⟨rfl, ?_, rfl⟩
  rw [field_timestamp_record]
  exact parse?_stampText onScale years within

private theorem isRecent_observed {sample : Sample} (within : sample.WithinDraws) :
    Stats.isRecent now (sample.observed now) = true := by
  have near := Time.Instant.since_wholeSecond_lt onScale sample.secondsAgo
  have inDay := within.secondsAgo
  apply decide_eq_true
  show now.since (now.minusSeconds sample.secondsAgo).wholeSecond ≤ Stats.windowNanos
  unfold Stats.windowNanos Time.nanosPerSecond at *
  omega

/-- All records of samples are observed, and all of them are recent. -/
theorem recent_records (years : 1 ≤ now.year ∧ now.year ≤ 9999) {samples : List Sample}
    (within : ∀ sample ∈ samples, sample.WithinDraws) :
    Stats.observations (samples.map fun sample => sample.record now) =
        samples.map (observed now) ∧
      Stats.recent (samples.map fun sample => sample.record now) now =
        samples.map (observed now) := by
  have all : Stats.observations (samples.map fun sample => sample.record now) =
      samples.map (observed now) := by
    rw [Stats.observations, List.filterMap_map, ← List.filterMap_eq_map]
    apply List.filterMap_congr
    intro sample member
    rw [Function.comp_apply, Function.comp_apply]
    exact observation?_record onScale years (within sample member)
  refine ⟨all, ?_⟩
  rw [Stats.recent, all, List.filter_eq_self, List.forall_mem_map]
  intro sample member
  exact isRecent_observed onScale (within sample member)

end Records

end Sample

/-- There are as many events as were asked for. -/
theorem length_generate (count : Nat) (seed : UInt64) (now : Time.Instant) :
    (generate count seed now).length = count := by
  rw [generate, List.length_map, Sample.length_drawMany]

/-! ### Totals -/

namespace Stats

section Totals

variable {κ : Type} [DecidableEq κ] [Ord κ] [Std.TransOrd κ] [Std.LawfulEqOrd κ]

/-- The counters of all keys together count every observation once. -/
theorem sumOf_countKeys (observed : List Observation) (key : Observation → κ) :
    sumOf (countKeys (observed.map key)).values = observed.length := by
  rw [values_countKeys]
  apply sumOf_countOf (SortedMap.nodup_keys _)
  intro observation member
  exact mem_keys_countKeys.mpr (List.mem_map_of_mem member)

end Totals

private theorem sumOf_countFilled {observed : List Observation} {name : String}
    (filled : ∀ observation ∈ observed, field observation.event name ≠ "") :
    sumOf (countFilled observed name).values = observed.length := by
  have none : ((observed.map fun observation => field observation.event name).filter fun text =>
      !text.isEmpty) = observed.map fun observation => field observation.event name := by
    rw [List.filter_eq_self, List.forall_mem_map]
    intro observation member
    simpa using filled observation member
  rw [countFilled, none, sumOf_countKeys]

/-- Every counter comes to the number of events, and every agent was seen within
the last day. -/
structure CountsAll (stats : Stats) (count : Nat) (now : Time.Instant) : Prop where
  types : sumOf stats.eventsByType.values = count
  severities : sumOf stats.severityDistribution.values = count
  users : sumOf stats.topUsers.values = count
  processes : sumOf stats.topProcesses.values = count
  hours : sumOf stats.eventsPerHour.values = count
  agents : ∀ entry ∈ stats.activeAgents.entries,
    (now.minusSeconds 86400).before entry.2.instant = true ∧
      now.before entry.2.instant = false

/-- The records of samples are all counted. -/
theorem countsAll_records {now : Time.Instant} (onScale : now.OnScale)
    (years : 1 ≤ now.year ∧ now.year ≤ 9999) {samples : List Sample}
    (within : ∀ sample ∈ samples, sample.WithinDraws) :
    CountsAll (compute (samples.map fun sample => sample.record now) now) samples.length now := by
  obtain ⟨isObserved, isRecent⟩ := Sample.recent_records onScale years within
  have count : (recent (samples.map fun sample => sample.record now) now).length =
      samples.length := by
    rw [isRecent, List.length_map]
  have users : ∀ observation ∈ recent (samples.map fun sample => sample.record now) now,
      field observation.event "user" ≠ "" := by
    rw [isRecent, List.forall_mem_map]
    intro sample member
    rw [Sample.observed, Sample.field_user_record]
    exact (within sample member).user
  have processes : ∀ observation ∈ recent (samples.map fun sample => sample.record now) now,
      field observation.event "process" ≠ "" := by
    rw [isRecent, List.forall_mem_map]
    intro sample member
    rw [Sample.observed, Sample.field_process_record]
    exact (within sample member).process
  exact
    { types := (sumOf_countKeys _ _).trans count
      severities := (sumOf_countKeys _ _).trans count
      users := (sumOf_countFilled users).trans count
      processes := (sumOf_countFilled processes).trans count
      hours := (sumOf_countKeys _ _).trans count
      agents := by
        intro entry member
        obtain ⟨observation, isSeen, -, isStamp⟩ := (isNewest_of_mem member).seen
        rw [isObserved] at isSeen
        obtain ⟨sample, isSample, rfl⟩ := List.mem_map.mp isSeen
        rw [← isStamp]
        exact ⟨Time.Instant.before_wholeSecond onScale (within sample isSample).secondsAgo,
          Time.Instant.not_before_wholeSecond onScale sample.secondsAgo⟩ }

/-- For every seed there are as many events as were asked for, and the statistics
of the same instant count them all. -/
theorem countsAll_generate (count : Nat) (seed : UInt64) {now : Time.Instant}
    (onScale : now.OnScale) (years : 1 ≤ now.year ∧ now.year ≤ 9999) :
    (generate count seed now).length = count ∧
      CountsAll (compute (generate count seed now) now) count now := by
  have length := Sample.length_drawMany count (Source.ofSeed seed)
  have counted := countsAll_records onScale years
    (Sample.withinDraws_of_mem count (Source.ofSeed seed))
  rw [length] at counted
  exact ⟨length_generate count seed now, counted⟩

/-- Within the leap second at the end of 2016. -/
def inLeapSecond : Time.Instant := ⟨1483228799, 1500000000⟩

theorem countsAll_leapSecond :
    inLeapSecond.OnScale ∧ inLeapSecond.year = 2016 ∧
      (generate 3 7 inLeapSecond).length = 3 ∧
      CountsAll (compute (generate 3 7 inLeapSecond) inLeapSecond) 3 inLeapSecond := by
  have onScale : inLeapSecond.OnScale := .inr ⟨by decide, by decide⟩
  have year : inLeapSecond.year = 2016 := by decide
  exact ⟨onScale, year, countsAll_generate 3 7 onScale (by rw [year]; decide)⟩

end Stats

end EventConsole.Demo
