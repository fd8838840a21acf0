import EventConsole.Dashboard.View
import EventConsole.Proofs.Demo.Snapshot
import EventConsole.Proofs.Time.Rfc3339

/-!
Contract: the dashboard shows the statistics of the events that the server
stores.

Owns: what a chart slot draws, and for each store what the charts of event types
and of hours and the panel of agents show of it.
-/

namespace EventConsole

open Json

/-! ### Chart slots -/

namespace ChartSlot

/-- The chart is drawn with these labels and numbers. Its values are words of 64
bits, which are exact as long as the numbers together fit one. -/
structure Draws (slot : ChartSlot) (labels : List String) (numbers : List Nat) : Prop where
  chart : ∃ chart, slot.visible? = some chart ∧ chart.labels = labels ∧
    chart.values = numbers.map UInt64.ofNat ∧
    (sumOf numbers < powerOf 2 64 → chart.values.map UInt64.toNat = numbers)
  placeholder : slot.placeholder = none

/-- No chart is drawn; the placeholder is. -/
structure Hides (slot : ChartSlot) (text : String) : Prop where
  chart : slot.visible? = none
  placeholder : slot.placeholder = some text

private theorem hides_showPlaceholder (slot : ChartSlot) (text : String) :
    (slot.showPlaceholder text).Hides text := ⟨rfl, rfl⟩

private theorem toNat_words {numbers : List Nat} (fits : sumOf numbers < powerOf 2 64) :
    (numbers.map UInt64.ofNat).map UInt64.toNat = numbers := by
  rw [List.map_map]
  refine (List.map_congr_left fun number member => ?_).trans (List.map_id _)
  exact Value.toNat_ofNat_word64 (Nat.lt_of_le_of_lt (le_sumOf_of_mem member) fits)

private theorem draws_display (slot : ChartSlot) (kind : ChartKind) (labels : List String)
    (numbers : List Nat) (colors : List Screen.Color) :
    (slot.display kind labels (numbers.map UInt64.ofNat) colors).Draws labels numbers := by
  unfold display
  cases slot.chart with
  | none => exact ⟨⟨_, rfl, rfl, rfl, toNat_words⟩, rfl⟩
  | some chart => exact ⟨⟨_, rfl, rfl, rfl, toNat_words⟩, rfl⟩

end ChartSlot

namespace DashboardView

open Demo Demo.Stats

/-! ### Charts -/

theorem hides_showMap {κ : Type} [Ord κ] {map : SortedMap κ UInt64} (empty : map.isEmpty = true)
    (slot : ChartSlot) (display : SortedMap κ UInt64 → ChartSlot) :
    (showMap slot (some map) display).Hides noChartData := by
  rw [showMap, empty]
  exact slot.hides_showPlaceholder noChartData

theorem showMap_of_filled {κ : Type} [Ord κ] {map : SortedMap κ UInt64}
    (filled : map.isEmpty = false) (slot : ChartSlot)
    (display : SortedMap κ UInt64 → ChartSlot) :
    showMap slot (some map) display = display map := by
  rw [showMap, filled]
  rfl

/-- The slot draws the number of observations of each of their types, in order. -/
structure DrawsTypes (recent : List Observation) (types : List String) (slot : ChartSlot) :
    Prop where
  increase : types.Pairwise fun first second => compare first second = .lt
  complete : ∀ type, type ∈ types ↔ ∃ observation ∈ recent, eventType observation = type
  draws : slot.Draws types (types.map (countOf recent eventType))
  total : sumOf (types.map (countOf recent eventType)) = recent.length

/-- The slot draws the number of observations in each hour of the day. -/
structure DrawsHours (recent : List Observation) (slot : ChartSlot) : Prop where
  draws : slot.Draws (hours.map hourLabel) (hours.map (countOf recent clockHour))
  total : sumOf (hours.map (countOf recent clockHour)) = recent.length

section Charts

variable {recent : List Observation}

private theorem hides_showTypes (none : recent.isEmpty = true) (slot : ChartSlot) :
    (showTypes slot (some ((countKeys (recent.map eventType)).mapValues UInt64.ofNat))).Hides
      noChartData :=
  hides_showMap (by rw [SortedMap.isEmpty_mapValues, isEmpty_countKeys, none]) slot _

private theorem drawsTypes_showTypes (filled : recent.isEmpty = false) (slot : ChartSlot) :
    DrawsTypes recent (countKeys (recent.map eventType)).keys
      (showTypes slot (some ((countKeys (recent.map eventType)).mapValues UInt64.ofNat))) where
  increase := SortedMap.keys_increase _
  complete := fun _ => mem_keys_countKeys.trans List.mem_map
  draws := by
    have notEmpty :
        ((countKeys (recent.map eventType)).mapValues UInt64.ofNat).isEmpty = false := by
      rw [SortedMap.isEmpty_mapValues, isEmpty_countKeys, filled]
    rw [showTypes, showMap_of_filled notEmpty, SortedMap.keys_mapValues,
      SortedMap.values_mapValues, values_countKeys]
    exact slot.draws_display _ _ _ _
  total := sumOf_countOf (SortedMap.nodup_keys _) fun _ member =>
    mem_keys_countKeys.mpr (List.mem_map_of_mem member)

private theorem hides_showTimeline (none : recent.isEmpty = true) (slot : ChartSlot)
    (inDay : ∀ hour ∈ (countKeys (recent.map clockHour)).keys, hour < 24) :
    (showTimeline slot (some (hourWords _ inDay))).Hides noChartData :=
  hides_showMap (by rw [isEmpty_hourWords, isEmpty_countKeys, none]) slot _

private theorem drawsHours_showTimeline (filled : recent.isEmpty = false) (slot : ChartSlot)
    (inDay : ∀ hour ∈ (countKeys (recent.map clockHour)).keys, hour < 24) :
    DrawsHours recent (showTimeline slot (some (hourWords _ inDay))) where
  draws := by
    have notEmpty : (hourWords (countKeys (recent.map clockHour)) inDay).isEmpty = false := by
      rw [isEmpty_hourWords, isEmpty_countKeys, filled]
    have values : (hours.map fun hour =>
        ((hourWords (countKeys (recent.map clockHour)) inDay).get? (UInt8.ofNat hour)).getD 0) =
          (hours.map (countOf recent clockHour)).map UInt64.ofNat := by
      rw [List.map_map]
      refine List.map_congr_left fun hour isHour => ?_
      rw [get?_hourWords inDay (List.mem_range.mp isHour), Function.comp_apply,
        ← getD_get?_countKeys]
      cases (countKeys (recent.map clockHour)).get? hour <;> rfl
    rw [showTimeline, showMap_of_filled notEmpty, values]
    exact slot.draws_display _ _ _ _
  total := sumOf_countOf List.nodup_range fun _ _ =>
    List.mem_range.mpr (Time.Instant.hour_clock_lt _ _)

end Charts

/-! ### Agents -/

/-- There is one row for each agent observed, and it tells of the agent's newest
time. -/
structure ListsAgents (observed : List Observation) (now : Time.Instant) (rows : List AgentRow) :
    Prop where
  distinct : (rows.map AgentRow.id).Nodup
  complete : ∀ agent, agent ∈ rows.map AgentRow.id ↔
    ∃ observation ∈ observed, observation.agent = agent
  newest : ∀ row ∈ rows, ∃ stamp, IsNewest observed row.id stamp ∧
    row.online = decide (now.secondsSince stamp.instant < onlineSeconds) ∧
    row.seenAgo = Time.ago stamp.instant now

theorem perm_ids_agentRows (agents : SortedMap String String) (now : Time.Instant) :
    ((agentRows agents now).map AgentRow.id).Perm agents.keys := by
  have sorted := (List.mergeSort_perm (agents.entries.map Sighting.ofEntry)
    Sighting.notLater).map Sighting.id
  rw [List.map_map] at sorted
  rw [agentRows, List.map_map]
  exact sorted

/-- The time of an agent, as the console reads it. -/
theorem ofEntry_text {id : String} {stamp : Time.Stamp} {text : List Char}
    (isRead : Time.Rfc3339.parse? text = some stamp) :
    Sighting.ofEntry (id, String.ofList stamp.text) = ⟨id, some stamp.instant⟩ := by
  simp [Sighting.ofEntry, Time.Rfc3339.parse?_stampText isRead]

private theorem listsAgents_agentRows (events : List Value) (now : Time.Instant) :
    ListsAgents (observations events) now
      (agentRows ((lastSeen (observations events)).mapValues fun stamp =>
        String.ofList stamp.text) now) := by
  have ids := perm_ids_agentRows
    ((lastSeen (observations events)).mapValues fun stamp => String.ofList stamp.text) now
  rw [SortedMap.keys_mapValues] at ids
  refine ⟨ids.nodup_iff.mpr (SortedMap.nodup_keys _),
    fun agent => ids.mem_iff.trans mem_keys_lastSeen, fun row member => ?_⟩
  obtain ⟨sighting, isSighting, rfl⟩ := List.mem_map.mp member
  obtain ⟨entry, isEntry, rfl⟩ := List.mem_map.mp (List.mem_mergeSort.mp isSighting)
  obtain ⟨⟨agent, stamp⟩, isLast, rfl⟩ := List.mem_map.mp isEntry
  have newest := isNewest_of_mem isLast
  obtain ⟨observation, isObserved, -, isStamp⟩ := newest.seen
  have isRead := parse?_of_mem isObserved
  rw [isStamp] at isRead
  rw [ofEntry_text isRead]
  exact ⟨stamp, newest, rfl, rfl⟩

/-! ### The whole view -/

/-- What the dashboard shows of a store: the charts count the observations of the
last day before `now`, and the panel tells the ages of all agents at `shownAt`. -/
structure ShowsStore (events : List Value) (now shownAt : Time.Instant) (view : DashboardView) :
    Prop where
  hidden : recent events now = [] →
    view.eventsByType.Hides noChartData ∧ view.timeline.Hides noChartData
  types : recent events now ≠ [] → ∃ types, DrawsTypes (recent events now) types view.eventsByType
  hours : recent events now ≠ [] → DrawsHours (recent events now) view.timeline
  agents : ∃ rows, view.agents = Panel.ofItems rows noAgents ∧
    ListsAgents (observations events) shownAt rows

private theorem showsStore_of_reports {events : List Value} {now : Time.Instant}
    {snapshot : StatsSnapshot}
    (reports : Reports snapshot (compute events now)) (shownAt : Time.Instant)
    (view : DashboardView) : ShowsStore events now shownAt (view.render snapshot shownAt) := by
  obtain ⟨inDay, isPerHour⟩ := reports.eventsPerHour
  rw [render, reports.eventsByType, reports.activeAgents, isPerHour]
  exact
    { hidden := fun none =>
        ⟨hides_showTypes (List.isEmpty_iff.mpr none) _,
          hides_showTimeline (List.isEmpty_iff.mpr none) _ inDay⟩
      types := fun filled => ⟨_, drawsTypes_showTypes (List.isEmpty_eq_false_iff.mpr filled) _⟩
      hours := fun filled =>
        drawsHours_showTimeline (List.isEmpty_eq_false_iff.mpr filled) _ inDay
      agents := ⟨_, rfl, listsAgents_agentRows events shownAt⟩ }

/-- The statistics of a store are read by the console, and the dashboard then
shows the store. -/
theorem showsStore_render {events : List Value}
    (decodes : ∀ event ∈ events, (Event.ofJson? event).isSome = true)
    (now shownAt : Time.Instant) (view : DashboardView) :
    ∃ snapshot, StatsSnapshot.ofJson? (compute events now).toJson = some snapshot ∧
      ShowsStore events now shownAt (view.render snapshot shownAt) := by
  obtain ⟨snapshot, isRead, reports⟩ := exists_reports_compute decodes now
  exact ⟨snapshot, isRead, showsStore_of_reports reports shownAt view⟩

/-- Two sightings of an agent on different clocks, the later one written first,
and a record that is no observation. -/
def mixedClocks : List Value :=
  [ .object
      [ ("agent_id", .string "web-1"), ("timestamp", .string "2024-05-01T09:30:00.5Z"),
        ("event_type", .string "user_login"), ("user", .null) ],
    .object
      [ ("agent_id", .string "web-1"), ("timestamp", .string "2024-05-01 11:00:00+02:00"),
        ("process", .string "sshd") ],
    .object [("id", .ofNat 7), ("timestamp", .string "yesterday")] ]

/-- 2024-05-01, 12:00 on the universal clock. -/
def noon : Time.Instant := ⟨1714564800, 0⟩

theorem showsStore_mixedClocks :
    (recent mixedClocks noon).map clockHour = [9, 11] ∧
      ∃ snapshot, StatsSnapshot.ofJson? (compute mixedClocks noon).toJson = some snapshot ∧
        ShowsStore mixedClocks noon noon (initial.render snapshot noon) := by
  have decodes : ∀ event ∈ mixedClocks, (Event.ofJson? event).isSome = true := by
    simp only [mixedClocks, List.forall_mem_cons]
    exact ⟨rfl, rfl, rfl, by simp⟩
  exact ⟨by decide, showsStore_render decodes noon noon initial⟩

end DashboardView

end EventConsole
