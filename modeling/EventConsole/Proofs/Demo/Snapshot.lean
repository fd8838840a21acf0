import EventConsole.Proofs.Demo.Stats
import EventConsole.Proofs.Json.Snapshot
import Mathlib.Data.List.Find

/-!
Contract: the console reads the statistics that the server writes.

The two sides have different types for them: times are texts for the console,
counters are words of 64 bits, and hours of one byte.

Owns: the reading of each map, and the snapshot that a store leads to.
-/

namespace EventConsole.Demo.Stats

open Json

/-! ### Maps -/

theorem optional?_timesJson (times : SortedMap String Time.Stamp) :
    Value.optional? StatsSnapshot.textMap?
        (some (mapJson id (fun stamp => .string (String.ofList stamp.text)) times)) =
      some (some (times.mapValues fun stamp => String.ofList stamp.text)) :=
  StatsSnapshot.optional?_mapOf_object (fun entry => (entry.1, String.ofList entry.2.text)) rfl
    fun _ _ => ⟨rfl, rfl⟩

theorem optional?_countsJson (counts : SortedMap String Nat) :
    Value.optional? StatsSnapshot.countMap? (some (mapJson id Value.ofNat counts)) =
      some (some (counts.mapValues UInt64.ofNat)) :=
  StatsSnapshot.optional?_mapOf_object (fun entry => (entry.1, UInt64.ofNat entry.2)) rfl
    fun _ _ => ⟨rfl, rfl⟩

private theorem compare_hourWord {hour other : Nat} (inDay : hour < 24) (otherInDay : other < 24) :
    compare (UInt8.ofNat hour) (UInt8.ofNat other) = compare hour other := by
  have all : ∀ hour other : Fin 24,
      compare (UInt8.ofNat hour.val) (UInt8.ofNat other.val) = compare hour.val other.val := by
    decide +kernel
  exact all ⟨hour, inDay⟩ ⟨other, otherInDay⟩

/-- Counts by the hour, as the console keeps them. -/
def hourWords (perHour : SortedMap Nat Nat) (inDay : ∀ hour ∈ perHour.keys, hour < 24) :
    SortedMap UInt8 UInt64 where
  entries := perHour.entries.map fun entry => (UInt8.ofNat entry.1, UInt64.ofNat entry.2)
  increasing := by
    rw [KeysIncrease, List.pairwise_map]
    refine perHour.increasing.imp_of_mem fun {first second} isFirst isSecond less => ?_
    rw [compare_hourWord (inDay _ (List.mem_map_of_mem isFirst))
      (inDay _ (List.mem_map_of_mem isSecond))]
    exact less

theorem isEmpty_hourWords {perHour : SortedMap Nat Nat}
    (inDay : ∀ hour ∈ perHour.keys, hour < 24) :
    (hourWords perHour inDay).isEmpty = perHour.isEmpty := by
  simp [hourWords, SortedMap.isEmpty]

theorem get?_hourWords {perHour : SortedMap Nat Nat} (inDay : ∀ hour ∈ perHour.keys, hour < 24)
    {hour : Nat} (isHour : hour < 24) :
    (hourWords perHour inDay).get? (UInt8.ofNat hour) = (perHour.get? hour).map UInt64.ofNat := by
  have sameHour : ∀ entry ∈ perHour.entries,
      (compare (UInt8.ofNat hour) (UInt8.ofNat entry.1) == .eq) = (compare hour entry.1 == .eq) :=
    fun entry member => by
      rw [compare_hourWord isHour (inDay _ (List.mem_map_of_mem member))]
  rw [SortedMap.get?, SortedMap.get?, hourWords, List.find?_map, Option.map_map, Option.map_map]
  exact congrArg _ (List.find?_congr sameHour)

private theorem optional?_hoursJson {perHour : SortedMap Nat Nat}
    (inDay : ∀ hour ∈ perHour.keys, hour < 24) :
    Value.optional? StatsSnapshot.hourMap? (some (mapJson toString Value.ofNat perHour)) =
      some (some (hourWords perHour inDay)) := by
  refine StatsSnapshot.optional?_mapOf_object
    (fun entry => (UInt8.ofNat entry.1, UInt64.ofNat entry.2)) rfl fun entry member => ⟨?_, rfl⟩
  have isHour : entry.1 < 24 := inDay _ (List.mem_map_of_mem member)
  exact StatsSnapshot.hourKey?_natText (Nat.lt_trans isHour (by decide))

/-! ### Snapshots -/

/-- A snapshot of the console that says the same as the statistics of the server. -/
structure Reports (snapshot : StatsSnapshot) (stats : Stats) : Prop where
  activeAgents : snapshot.activeAgents =
    some (stats.activeAgents.mapValues fun stamp => String.ofList stamp.text)
  eventsByType : snapshot.eventsByType = some (stats.eventsByType.mapValues UInt64.ofNat)
  eventsPerHour : ∃ inDay, snapshot.eventsPerHour = some (hourWords stats.eventsPerHour inDay)

private theorem exists_reports {stats : Stats}
    (logins : ∀ event ∈ stats.lastLogins, (Event.ofJson? event).isSome = true)
    (inDay : ∀ hour ∈ stats.eventsPerHour.keys, hour < 24) :
    ∃ snapshot, StatsSnapshot.ofJson? stats.toJson = some snapshot ∧ Reports snapshot stats := by
  obtain ⟨events, decoded⟩ := exists_mapM logins
  refine ⟨⟨_, some events, _, some (stats.severityDistribution.mapValues UInt64.ofNat),
    some (stats.topProcesses.mapValues UInt64.ofNat), some (stats.topUsers.mapValues UInt64.ofNat),
    _⟩, StatsSnapshot.ofJson?_eq_some_iff.mpr ⟨_, rfl, ?_⟩, rfl, rfl, inDay, rfl⟩
  exact
    { activeAgents := optional?_timesJson stats.activeAgents
      lastLogins := Value.optional?_array decoded
      eventsByType := optional?_countsJson stats.eventsByType
      severityDistribution := optional?_countsJson stats.severityDistribution
      topProcesses := optional?_countsJson stats.topProcesses
      topUsers := optional?_countsJson stats.topUsers
      eventsPerHour := optional?_hoursJson inDay }

/-- The statistics of a store whose events the console can read are read as a
snapshot. -/
theorem exists_reports_compute {events : List Value}
    (decodes : ∀ event ∈ events, (Event.ofJson? event).isSome = true) (now : Time.Instant) :
    ∃ snapshot, StatsSnapshot.ofJson? (compute events now).toJson = some snapshot ∧
      Reports snapshot (compute events now) := by
  refine exists_reports (fun event isLogin => ?_) fun hour counted => ?_
  · obtain ⟨observation, member, rfl⟩ := mem_newestLogins isLogin
    exact decodes _ (event_mem_of_mem member)
  · obtain ⟨observation, -, rfl⟩ := List.mem_map.mp (mem_keys_countKeys.mp counted)
    exact Time.Instant.hour_clock_lt _ _

end EventConsole.Demo.Stats
