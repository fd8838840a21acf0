import EventConsole.Proofs.Demo.Tallies

/-!
Contract: which records of a store the counters take in.

A record is counted once under each of its keys, or it is passed over. The only
bound is on its age: whatever tells of a time ahead of `now` is counted, however
far ahead it lies.

Owns: what one record adds to each counter, wherever it stands in its store, and
that the window of the counters has no end toward later times.
-/

namespace EventConsole

namespace Demo.Stats

open Json

/-! ### One key more -/

section Counters

variable {κ : Type} [Ord κ] [Std.TransOrd κ] [Std.LawfulEqOrd κ]

/-- The counter of the key is not what it was. -/
theorem addOne_ne (counts : SortedMap κ Nat) (key : κ) : addOne counts key ≠ counts := by
  intro same
  have counter := SortedMap.get?_upsert_self counts key fun count => count.getD 0 + 1
  change (addOne counts key).get? key = _ at counter
  rw [same] at counter
  cases found : counts.get? key with
  | none => simp [found] at counter
  | some count => simp [found] at counter

variable [DecidableEq κ]

private theorem countKeys_perm {keys other : List κ} (perm : keys.Perm other) :
    countKeys keys = countKeys other := by
  refine SortedMap.eq_of_get? fun key => ?_
  simp only [get?_countKeys, perm.mem_iff, perm.count_eq]

/-- It does not matter where a key stands. -/
theorem countKeys_insert (before after : List κ) (key : κ) :
    countKeys (before ++ key :: after) = addOne (countKeys (before ++ after)) key := by
  have last : (before ++ key :: after).Perm ((before ++ after) ++ [key]) :=
    List.perm_middle.trans (List.perm_append_singleton key (before ++ after)).symm
  rw [countKeys_perm last, countKeys_concat]

end Counters

/-! ### One record more -/

/-- One more under a text, unless it is empty. -/
def addFilled (counts : SortedMap String Nat) (text : String) : SortedMap String Nat :=
  if text = "" then counts else addOne counts text

/-- Two statistics have the same counters. -/
structure SameCounters (stats other : Stats) : Prop where
  types : other.eventsByType = stats.eventsByType
  severities : other.severityDistribution = stats.severityDistribution
  users : other.topUsers = stats.topUsers
  processes : other.topProcesses = stats.topProcesses
  hours : other.eventsPerHour = stats.eventsPerHour

/-- The second statistics count one record more, once under each of its keys: its
type, its severity, its user and its process where they are filled, and the hour
on its own clock. -/
structure CountsOneMore (event : Value) (stamp : Time.Stamp) (stats more : Stats) : Prop where
  types : more.eventsByType = addOne stats.eventsByType (textOf "event_type" event)
  severities : more.severityDistribution =
    addOne stats.severityDistribution (textOf "severity" event)
  users : more.topUsers = addFilled stats.topUsers (textOf "user" event)
  processes : more.topProcesses = addFilled stats.topProcesses (textOf "process" event)
  hours : more.eventsPerHour = addOne stats.eventsPerHour stamp.clock.hour

/-- A record that is counted makes a difference. -/
theorem CountsOneMore.not_sameCounters {event : Value} {stamp : Time.Stamp} {stats more : Stats}
    (counted : CountsOneMore event stamp stats more) : ¬ SameCounters stats more := by
  intro same
  exact addOne_ne stats.eventsByType _ (counted.types.symm.trans same.types)

private theorem countFilled_insert (before after : List Observation) (observation : Observation)
    (name : String) :
    countFilled (before ++ observation :: after) name =
      addFilled (countFilled (before ++ after) name) (textOf name observation.event) := by
  unfold countFilled addFilled
  rw [List.map_append, List.map_cons, List.filter_append, field_eq_textOf]
  by_cases empty : textOf name observation.event = ""
  · rw [if_pos empty, List.filter_cons_of_neg (by simp [empty]), ← List.filter_append,
      ← List.map_append]
  · rw [if_neg empty, List.filter_cons_of_pos (by simp [empty]), countKeys_insert,
      ← List.filter_append, ← List.map_append]

section Store

variable (before after : List Value) {event : Value} {now : Time.Instant}

theorem recent_append (events more : List Value) (now : Time.Instant) :
    recent (events ++ more) now = recent events now ++ recent more now := by
  rw [recent, observations, List.filterMap_append, List.filter_append]
  rfl

private theorem recent_cons_of_young {stamp : Time.Stamp} (isStamp : stampOf? event = some stamp)
    (young : now.since stamp.instant ≤ windowNanos) :
    recent (event :: after) now =
      ⟨textOf "agent_id" event, stamp, event⟩ :: recent after now := by
  have observed : observation? event = some ⟨textOf "agent_id" event, stamp, event⟩ := by
    rw [observation?_eq, isStamp]
    rfl
  unfold recent observations
  rw [List.filterMap_cons_some observed]
  exact List.filter_cons_of_pos (decide_eq_true young)

/-- A record without a time, or outside the window, leaves no trace. -/
theorem recent_cons_of_old
    (old : ∀ stamp, stampOf? event = some stamp → windowNanos < now.since stamp.instant) :
    recent (event :: after) now = recent after now := by
  have observed := observation?_eq event
  unfold recent observations
  cases isStamp : stampOf? event with
  | none =>
      rw [isStamp] at observed
      rw [List.filterMap_cons_none observed]
  | some stamp =>
      rw [isStamp] at observed
      rw [List.filterMap_cons_some observed]
      exact List.filter_cons_of_neg fun young =>
        Int.not_le.mpr (old stamp isStamp) (of_decide_eq_true young)

theorem countsOneMore_insert {stamp : Time.Stamp} (isStamp : stampOf? event = some stamp)
    (young : now.since stamp.instant ≤ windowNanos) :
    CountsOneMore event stamp (compute (before ++ after) now)
      (compute (before ++ event :: after) now) := by
  have inserted : recent (before ++ event :: after) now =
      recent before now ++ ⟨textOf "agent_id" event, stamp, event⟩ :: recent after now := by
    rw [recent_append, recent_cons_of_young after isStamp young]
  have kept := recent_append before after now
  have field (name : String) :
      countField (recent (before ++ event :: after) now) name =
        addOne (countField (recent (before ++ after) now) name) (textOf name event) := by
    rw [inserted, kept, countField, List.map_append, List.map_cons, countKeys_insert,
      field_eq_textOf, ← List.map_append]
    rfl
  have filled (name : String) :
      countFilled (recent (before ++ event :: after) now) name =
        addFilled (countFilled (recent (before ++ after) now) name) (textOf name event) := by
    rw [inserted, kept, countFilled_insert]
  refine ⟨field "event_type", field "severity", filled "user", filled "process", ?_⟩
  show countKeys ((recent (before ++ event :: after) now).map clockHour) =
    addOne (countKeys ((recent (before ++ after) now).map clockHour)) stamp.clock.hour
  rw [inserted, kept, List.map_append, List.map_cons, countKeys_insert, ← List.map_append]
  rfl

private theorem sameCounters_insert
    (old : ∀ stamp, stampOf? event = some stamp → windowNanos < now.since stamp.instant) :
    SameCounters (compute (before ++ after) now) (compute (before ++ event :: after) now) := by
  have same : recent (before ++ event :: after) now = recent (before ++ after) now := by
    rw [recent_append, recent_append, recent_cons_of_old after old]
  exact
    { types := congrArg (countField · "event_type") same
      severities := congrArg (countField · "severity") same
      users := congrArg (countFilled · "user") same
      processes := congrArg (countFilled · "process") same
      hours :=
        congrArg (fun observed : List Observation => countKeys (observed.map clockHour)) same }

end Store

/-! ### The window -/

/-- A record ahead of `now` is within the window. -/
theorem since_le_windowNanos {now instant : Time.Instant}
    (onScale : now.nanos < 2 * Time.nanosPerSecond) (ahead : now.before instant = true) :
    now.since instant ≤ windowNanos := by
  have distance := Time.Instant.since_le_of_before ahead
  unfold windowNanos
  unfold Time.nanosPerSecond at *
  omega

/-- How the counters take a record that stands between two parts of a store. It is
passed over exactly when it tells of no time, or of one more than a day before
`now`; and all that tell of a time ahead of `now` are counted. -/
structure CountsByAge (before after : List Value) (now : Time.Instant) (event : Value) : Prop where
  passedOver : SameCounters (compute (before ++ after) now)
      (compute (before ++ event :: after) now) ↔
    ∀ stamp, stampOf? event = some stamp → windowNanos < now.since stamp.instant
  counted : ∀ stamp, stampOf? event = some stamp → now.since stamp.instant ≤ windowNanos →
    CountsOneMore event stamp (compute (before ++ after) now)
      (compute (before ++ event :: after) now)
  ahead : ∀ stamp, stampOf? event = some stamp → now.before stamp.instant = true →
    CountsOneMore event stamp (compute (before ++ after) now)
      (compute (before ++ event :: after) now)

/-- The counters look at the age of a record and at nothing else, so that their
window is open toward later times. -/
theorem countsByAge_compute (before after : List Value) {now : Time.Instant}
    (onScale : now.nanos < 2 * Time.nanosPerSecond) (event : Value) :
    CountsByAge before after now event where
  passedOver := by
    refine ⟨fun same stamp isStamp => ?_, sameCounters_insert before after⟩
    rw [← Int.not_le]
    intro young
    exact (countsOneMore_insert before after isStamp young).not_sameCounters same
  counted := fun _ isStamp young => countsOneMore_insert before after isStamp young
  ahead := fun _ isStamp isAhead =>
    countsOneMore_insert before after isStamp (since_le_windowNanos onScale isAhead)

/-- A file access an hour after 2024-05-01, 12:00 on the universal clock. -/
def hourAhead : Value :=
  .object
    [ ("agent_id", .string "web-1"), ("timestamp", .string "2024-05-01T15:00:00+02:00"),
      ("event_type", .string "file_access"), ("severity", .string "low"),
      ("user", .string "ada"), ("process", .string "sshd") ]

theorem countsByAge_hourAhead :
    twoClocksNow.nanos < 2 * Time.nanosPerSecond ∧
      stampOf? hourAhead = some ⟨⟨1714568400, 0⟩, 7200⟩ ∧
      twoClocksNow.before ⟨1714568400, 0⟩ = true ∧
      (compute [hourAhead] twoClocksNow).eventsByType.entries = [("file_access", 1)] ∧
      CountsOneMore hourAhead ⟨⟨1714568400, 0⟩, 7200⟩ (compute [] twoClocksNow)
        (compute [hourAhead] twoClocksNow) := by
  have onScale : twoClocksNow.nanos < 2 * Time.nanosPerSecond := by decide
  have isStamp : stampOf? hourAhead = some ⟨⟨1714568400, 0⟩, 7200⟩ := by decide
  have ahead : twoClocksNow.before ⟨1714568400, 0⟩ = true := by decide
  exact ⟨onScale, isStamp, ahead, by decide,
    (countsByAge_compute [] [] onScale hourAhead).ahead _ isStamp ahead⟩

end Demo.Stats

end EventConsole
