import EventConsole.Proofs.Json.Event
import EventConsole.Proofs.SortedMap
import EventConsole.StatsSnapshot

/-!
Contract: the aggregates of the dashboard read back from the record written for
them, and with them everything that the console decodes.

Owns: maps written as objects, hours of the day as names, snapshots, and the
round trip of events, pages and snapshots.
-/

namespace EventConsole

open Json

namespace StatsSnapshot

/-! ### Maps -/

/-- Reads a member of an object as an entry of a map. -/
def entryOf? {κ ν : Type} (key : String → Option κ) (decode : Value → Option ν)
    (member : String × Value) : Option (κ × ν) :=
  (key member.1).bind fun k => (decode member.2).bind fun v => some (k, v)

section Maps

variable {κ ν : Type} [Ord κ] [Std.TransOrd κ] [Std.LawfulEqOrd κ]
variable {key : String → Option κ} {decode : Value → Option ν}

private theorem mapOf?_object (members : Members) :
    mapOf? key decode (.object members) =
      (members.mapM (entryOf? key decode)).bind fun entries => some (SortedMap.ofList entries) :=
  rfl

/-- An object reads as the map whose entries its members read as. -/
theorem optional?_mapOf_object {ι : Type} {items : List ι} {name : ι → String} {write : ι → Value}
    {map : SortedMap κ ν} (entry : ι → κ × ν) (entries : items.map entry = map.entries)
    (reads : ∀ item ∈ items,
      key (name item) = some (entry item).1 ∧ decode (write item) = some (entry item).2) :
    Value.optional? (mapOf? key decode)
        (some (.object (items.map fun item => (name item, write item)))) = some (some map) := by
  have decoded : (items.map fun item => (name item, write item)).mapM (entryOf? key decode) =
      some map.entries := by
    rw [mapM_eq_some_iff, ← entries, List.map_map, List.map_map]
    refine List.map_congr_left fun item member => ?_
    simp [entryOf?, reads item member]
  refine Value.optional?_of_ne_null (fun isNull => nomatch isNull) ?_
  rw [mapOf?_object, decoded, Option.bind_some]
  exact congrArg some (SortedMap.eq_of_entries (SortedMap.entries_ofList map.increasing))

/-- A map read back from the object that is written for it. -/
theorem optional?_mapJson {name : κ → String} {write : ν → Value} (map : Option (SortedMap κ ν))
    (keys : ∀ k, key (name k) = some k)
    (values : ∀ v, decode (write v) = some v) :
    Value.optional? (mapOf? key decode) (some (mapJson name write map)) = some map := by
  cases map with
  | none => rfl
  | some map =>
      exact optional?_mapOf_object id (List.map_id _) fun entry _ =>
        ⟨keys entry.1, values entry.2⟩

end Maps

theorem hourKey?_natText {hour : Nat} (small : hour < 256) :
    hourKey? (String.ofList (natText hour)) = some (UInt8.ofNat hour) := by
  have all : ∀ hour : Fin 256,
      hourKey? (String.ofList (natText hour.val)) = some (UInt8.ofNat hour.val) := by
    decide +kernel
  exact all ⟨hour, small⟩

theorem optional?_countMapJson (map : Option (SortedMap String UInt64)) :
    Value.optional? countMap? (some (countMapJson map)) = some map :=
  optional?_mapJson map (fun _ => rfl) (fun _ => rfl)

/-! ### Snapshots -/

/-- A snapshot and the fields it was read from. -/
structure ReadFrom (stats : StatsSnapshot) (field : String → Option Value) : Prop where
  activeAgents :
    Value.optional? textMap? (field "active_agents") = some stats.activeAgents
  lastLogins :
    Value.optional? (Value.listOf? Event.ofJson?) (field "last_logins") = some stats.lastLogins
  eventsByType : Value.optional? countMap? (field "events_by_type") = some stats.eventsByType
  severityDistribution :
    Value.optional? countMap? (field "severity_distribution") = some stats.severityDistribution
  topProcesses : Value.optional? countMap? (field "top_processes") = some stats.topProcesses
  topUsers : Value.optional? countMap? (field "top_users") = some stats.topUsers
  eventsPerHour : Value.optional? hourMap? (field "events_per_hour") = some stats.eventsPerHour

theorem ofJson?_eq_some_iff {value : Value} {stats : StatsSnapshot} :
    ofJson? value = some stats ↔
      ∃ field, value.fields? fieldNames = some field ∧ stats.ReadFrom field := by
  constructor
  · intro isRead
    simp only [ofJson?, Option.bind_eq_bind, Option.bind_eq_some_iff] at isRead
    obtain ⟨field, isRecord, _, agents, _, logins, _, types, _, severities, _, processes, _, users,
      _, hours, isStats⟩ := isRead
    obtain rfl := Option.some.inj isStats
    exact ⟨field, isRecord, agents, logins, types, severities, processes, users, hours⟩
  · rintro ⟨field, isRecord, agents, logins, types, severities, processes, users, hours⟩
    simp only [ofJson?, isRecord, Option.bind_eq_bind, Option.bind_some, agents, logins, types,
      severities, processes, users, hours]
    rfl

private theorem extraUnknown_lastLogins {value : Value} {stats : StatsSnapshot}
    (isRead : ofJson? value = some stats) :
    ∀ events, stats.lastLogins = some events → ∀ event ∈ events, event.ExtraUnknown := by
  obtain ⟨field, -, isStats⟩ := ofJson?_eq_some_iff.mp isRead
  intro events isLogins
  have isList := isStats.lastLogins
  rw [isLogins] at isList
  obtain ⟨list, -, decoded⟩ := Value.exists_of_optional?_eq_some isList
  exact Event.extraUnknown_of_listOf? decoded

/-- A snapshot as it is read from its own written form. -/
def asWritten (stats : StatsSnapshot) : StatsSnapshot :=
  { stats with lastLogins := stats.lastLogins.map fun events => events.map Event.asWritten }

theorem ofJson?_toJson {stats : StatsSnapshot}
    (unknown : ∀ events, stats.lastLogins = some events → ∀ event ∈ events, event.ExtraUnknown) :
    ofJson? stats.toJson = some stats.asWritten := by
  refine ofJson?_eq_some_iff.mpr ⟨_, rfl, ?_⟩
  exact
    { activeAgents := optional?_mapJson stats.activeAgents (fun _ => rfl) (fun _ => rfl)
      lastLogins := Event.optional?_listJson unknown
      eventsByType := optional?_countMapJson stats.eventsByType
      severityDistribution := optional?_countMapJson stats.severityDistribution
      topProcesses := optional?_countMapJson stats.topProcesses
      topUsers := optional?_countMapJson stats.topUsers
      eventsPerHour := by
        refine optional?_mapJson stats.eventsPerHour (fun hour => ?_) (fun _ => rfl)
        rw [hourKey?_natText hour.toNat_lt, UInt8.ofNat_toNat] }

end StatsSnapshot

/-! ### Round trips -/

/-- What is read from a value reads from its own written form again, with the
records of events written anew; and extra members never take the name of a
known field. -/
theorem reads_back (value : Value) :
    (∀ event, Event.ofJson? value = some event →
      Event.ofJson? event.toJson = some event.asWritten ∧ event.ExtraUnknown) ∧
    (∀ page, EventsPage.ofJson? value = some page →
      EventsPage.ofJson? page.toJson = some page.asWritten ∧
        ∀ events, page.data = some events → ∀ event ∈ events, event.ExtraUnknown) ∧
    ∀ stats, StatsSnapshot.ofJson? value = some stats →
      StatsSnapshot.ofJson? stats.toJson = some stats.asWritten ∧
        ∀ events, stats.lastLogins = some events → ∀ event ∈ events, event.ExtraUnknown := by
  refine ⟨fun event isEvent => ?_, fun page isPage => ?_, fun stats isStats => ?_⟩
  · have unknown := Event.extraUnknown_of_ofJson? isEvent
    exact ⟨Event.ofJson?_toJson unknown, unknown⟩
  · have unknown := EventsPage.extraUnknown_data isPage
    exact ⟨EventsPage.ofJson?_toJson unknown, unknown⟩
  · have unknown := StatsSnapshot.extraUnknown_lastLogins isStats
    exact ⟨StatsSnapshot.ofJson?_toJson unknown, unknown⟩

/-- A record that is an event, a page and a snapshot at once: with a null field,
an unknown member before a known one, and hours out of order. -/
def mixedRecord : Value :=
  .object
    [ ("status", .string "success"), ("user", .null),
      ("data", .array [.object
        [("id", .ofNat 7), ("message", .string ""), ("ip", .null), ("tags", .array [.null])]]),
      ("totalPages", .ofNat 3), ("severity", .string "high"),
      ("active_agents", .object [("web-1", .string "2024-05-01T10:00:00Z"), ("db", .string "?")]),
      ("last_logins", .array []),
      ("events_per_hour", .object [("23", .ofNat 2), ("7", .ofNat 1)]) ]

theorem reads_back_mixedRecord :
    ∃ event page stats, Event.ofJson? mixedRecord = some event ∧
      EventsPage.ofJson? mixedRecord = some page ∧
      StatsSnapshot.ofJson? mixedRecord = some stats ∧
      Event.ofJson? event.toJson = some event.asWritten ∧
      EventsPage.ofJson? page.toJson = some page.asWritten ∧
      StatsSnapshot.ofJson? stats.toJson = some stats.asWritten := by
  obtain ⟨asEvent, asPage, asStats⟩ := reads_back mixedRecord
  exact ⟨_, _, _, rfl, rfl, rfl, (asEvent _ rfl).1, (asPage _ rfl).1, (asStats _ rfl).1⟩

end EventConsole
