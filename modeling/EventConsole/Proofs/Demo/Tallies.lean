import EventConsole.Proofs.Demo.Stats

/-!
Contract: the statistics of a store count its events exactly, in whatever order
they stand.

What counts is said of the records themselves: a record tells of an agent and of
a time, and it is counted while it is no more than a day old.

Owns: what the statistics look at in a record, each map against the number of
records that it stands for, and statistics of the same records in another order.
-/

namespace EventConsole

namespace Demo.Stats

open Json

/-! ### Records -/

/-- The text under a name; what is missing or no text is read as empty. -/
def textOf (name : String) (event : Value) : String :=
  match event.member? name with
  | some (.string text) => text
  | _ => ""

/-- When a record that names an agent happened, if its time can be read. -/
def stampOf? (event : Value) : Option Time.Stamp :=
  match event.member? "agent_id", event.member? "timestamp" with
  | some (.string _), some (.string text) => Time.Rfc3339.parse? text.toList
  | _, _ => none

/-- A record tells that an agent was seen at a time. -/
structure Tells (event : Value) (agent : String) (stamp : Time.Stamp) : Prop where
  agent : event.member? "agent_id" = some (.string agent)
  time : stampOf? event = some stamp

/-- How many records of the last day before `now` are wanted. -/
def numberOf (events : List Value) (now : Time.Instant)
    (wanted : Value → Time.Stamp → Bool) : Nat :=
  events.countP fun event =>
    match stampOf? event with
    | some stamp => decide (now.since stamp.instant ≤ windowNanos) && wanted event stamp
    | none => false

theorem field_eq_textOf (event : Value) (name : String) : field event name = textOf name event := by
  unfold field Value.textMember textOf
  cases event.member? name with
  | none => rfl
  | some value => cases value <;> rfl

/-- A record with a time that counts names its agent. -/
theorem agent_of_stampOf? {event : Value} {stamp : Time.Stamp}
    (isStamp : stampOf? event = some stamp) :
    event.member? "agent_id" = some (.string (textOf "agent_id" event)) := by
  unfold stampOf? at isStamp
  unfold textOf
  split at isStamp
  case h_1 isAgent _ => rw [isAgent]
  case h_2 => contradiction

theorem observation?_eq (event : Value) :
    observation? event =
      (stampOf? event).map fun stamp => ⟨textOf "agent_id" event, stamp, event⟩ := by
  unfold observation? stampOf?
  rw [field_eq_textOf]
  unfold textOf
  cases event.member? "agent_id" with
  | none => rfl
  | some agent =>
      cases agent with
      | string agent =>
          cases event.member? "timestamp" with
          | none => rfl
          | some time => cases time <;> rfl
      | _ => rfl

/-- A record is observed when it tells of an agent and of a time. -/
theorem observation?_eq_some_iff_tells {event : Value} {observation : Observation} :
    observation? event = some observation ↔
      Tells event observation.agent observation.stamp ∧ observation.event = event := by
  rw [observation?_eq, Option.map_eq_some_iff]
  constructor
  · rintro ⟨stamp, isStamp, rfl⟩
    exact ⟨⟨agent_of_stampOf? isStamp, isStamp⟩, rfl⟩
  · obtain ⟨agent, stamp, source⟩ := observation
    rintro ⟨⟨isAgent, isStamp⟩, rfl⟩
    refine ⟨stamp, isStamp, ?_⟩
    rw [textOf, isAgent]

theorem mem_observations_iff {events : List Value} {observation : Observation} :
    observation ∈ observations events ↔
      observation.event ∈ events ∧
        Tells observation.event observation.agent observation.stamp := by
  rw [observations, List.mem_filterMap]
  constructor
  · rintro ⟨event, isEvent, observed⟩
    obtain ⟨tells, rfl⟩ := observation?_eq_some_iff_tells.mp observed
    exact ⟨isEvent, tells⟩
  · rintro ⟨isEvent, tells⟩
    exact ⟨observation.event, isEvent, observation?_eq_some_iff_tells.mpr ⟨tells, rfl⟩⟩

/-! ### Counters -/

/-- A map gives each key its number, and holds no key whose number is zero. -/
def CountsEach {κ : Type} [Ord κ] (counts : SortedMap κ Nat) (number : κ → Nat) : Prop :=
  ∀ key, counts.get? key = if number key = 0 then none else some (number key)

section Counters

variable {κ : Type} [Ord κ] [Std.TransOrd κ] [Std.LawfulEqOrd κ]

/-- Two maps that count the same are one map. -/
theorem CountsEach.unique {counts other : SortedMap κ Nat} {number otherNumber : κ → Nat}
    (exact : CountsEach counts number) (otherExact : CountsEach other otherNumber)
    (same : number = otherNumber) : counts = other := by
  subst same
  exact SortedMap.eq_of_get? fun key => (exact key).trans (otherExact key).symm

variable [DecidableEq κ]

theorem countsEach_countKeys {keys : List κ} {number : κ → Nat}
    (isNumber : ∀ key, keys.count key = number key) : CountsEach (countKeys keys) number := by
  intro key
  rw [get?_countKeys, ← isNumber]
  by_cases member : key ∈ keys
  · rw [if_pos member, if_neg (Nat.ne_of_gt (List.count_pos_iff.mpr member))]
  · rw [if_neg member, if_pos (List.count_eq_zero_of_not_mem member)]

end Counters

/-- The observations of the last day with a key are the records with that key. -/
theorem count_recent {κ : Type} [DecidableEq κ] (events : List Value) (now : Time.Instant)
    (look : Value → Time.Stamp → κ) (key : κ) :
    ((recent events now).map fun observation => look observation.event observation.stamp).count
        key =
      numberOf events now fun event stamp => decide (look event stamp = key) := by
  rw [List.count, List.countP_map, recent, observations, List.countP_filter, List.countP_filterMap,
    numberOf]
  apply List.countP_congr
  intro event _
  rw [observation?_eq]
  cases stampOf? event with
  | none => rfl
  | some stamp => simp [isRecent, and_comm]

section Store

variable (events : List Value) (now : Time.Instant)

/-- How many records of the last day have a text under a name. -/
def numberWith (name text : String) : Nat :=
  numberOf events now fun event _ => decide (textOf name event = text)

/-- How many records of the last day happened in an hour, by their own clocks. -/
def numberAt (hour : Nat) : Nat :=
  numberOf events now fun _ stamp => decide (stamp.clock.hour = hour)

private theorem count_field (name text : String) :
    ((recent events now).map fun observation => field observation.event name).count text =
      numberWith events now name text := by
  simp only [field_eq_textOf]
  exact count_recent events now (fun event _ => textOf name event) text

private theorem countsEach_countField (name : String) :
    CountsEach (countField (recent events now) name) (numberWith events now name) :=
  countsEach_countKeys (count_field events now name)

/-- The empty text is never counted. -/
theorem countsEach_countFilled (name : String) :
    CountsEach (countFilled (recent events now) name) fun text =>
      if text = "" then 0 else numberWith events now name text := by
  apply countsEach_countKeys
  intro text
  by_cases empty : text = ""
  · rw [if_pos empty, empty]
    exact List.count_eq_zero_of_not_mem (by simp)
  · rw [if_neg empty, List.count_filter (by simp [empty]), count_field]

private theorem countsEach_countHours :
    CountsEach (countKeys ((recent events now).map fun observation => observation.stamp.clock.hour))
      (numberAt events now) :=
  countsEach_countKeys (count_recent events now fun _ stamp => stamp.clock.hour)

end Store

/-! ### Agents -/

/-- A map gives each agent that some record tells of a time at which it was seen,
with no record of a later one. -/
structure RemembersLast (agents : SortedMap String Time.Stamp) (events : List Value) : Prop where
  complete : ∀ agent, agent ∈ agents.keys ↔ ∃ event ∈ events, ∃ stamp, Tells event agent stamp
  told : ∀ agent stamp, agents.get? agent = some stamp → ∃ event ∈ events, Tells event agent stamp
  newest : ∀ agent stamp, agents.get? agent = some stamp →
    ∀ event ∈ events, ∀ other, Tells event agent other →
      stamp.instant.before other.instant = false

private theorem remembersLast_lastSeen (events : List Value) :
    RemembersLast (lastSeen (observations events)) events where
  complete := by
    intro agent
    rw [mem_keys_lastSeen]
    constructor
    · rintro ⟨observation, member, rfl⟩
      obtain ⟨isEvent, tells⟩ := mem_observations_iff.mp member
      exact ⟨observation.event, isEvent, observation.stamp, tells⟩
    · rintro ⟨event, isEvent, stamp, tells⟩
      exact ⟨⟨agent, stamp, event⟩, mem_observations_iff.mpr ⟨isEvent, tells⟩, rfl⟩
  told := by
    intro agent stamp isLast
    have newest := isNewest_of_mem (SortedMap.get?_eq_some_iff.mp isLast)
    obtain ⟨observation, member, rfl, rfl⟩ := newest.seen
    obtain ⟨isEvent, tells⟩ := mem_observations_iff.mp member
    exact ⟨observation.event, isEvent, tells⟩
  newest := by
    intro agent stamp isLast event isEvent other tells
    have newest := isNewest_of_mem (SortedMap.get?_eq_some_iff.mp isLast)
    exact newest.last ⟨agent, other, event⟩ (mem_observations_iff.mpr ⟨isEvent, tells⟩) rfl

/-- The same records give each agent the same instant, in whatever order they
stand. -/
theorem RemembersLast.instant_eq {agents other : SortedMap String Time.Stamp}
    {events reordered : List Value} (remembers : RemembersLast agents events)
    (otherRemembers : RemembersLast other reordered)
    (same : ∀ event, event ∈ events ↔ event ∈ reordered) (agent : String) :
    (agents.get? agent).map Time.Stamp.instant = (other.get? agent).map Time.Stamp.instant := by
  have sameAgents : agent ∈ agents.keys ↔ agent ∈ other.keys := by
    rw [remembers.complete, otherRemembers.complete]
    simp only [same]
  rw [SortedMap.mem_keys_iff, SortedMap.mem_keys_iff] at sameAgents
  cases isLast : agents.get? agent with
  | none =>
      rw [isLast] at sameAgents
      cases isOther : other.get? agent with
      | none => rfl
      | some stamp => simp [isOther] at sameAgents
  | some stamp =>
      rw [isLast] at sameAgents
      cases isOther : other.get? agent with
      | none => simp [isOther] at sameAgents
      | some otherStamp =>
          obtain ⟨event, isEvent, tells⟩ := remembers.told agent stamp isLast
          obtain ⟨later, isLater, tellsLater⟩ := otherRemembers.told agent otherStamp isOther
          have notLater := remembers.newest agent stamp isLast later ((same later).mpr isLater)
            otherStamp tellsLater
          have notEarlier := otherRemembers.newest agent otherStamp isOther event
            ((same event).mp isEvent) stamp tells
          exact congrArg some (Time.Instant.eq_of_not_before notLater notEarlier)

/-! ### The whole -/

/-- The statistics count the records of the last day before `now`, and remember
the agents of all records. -/
structure Tallies (stats : Stats) (events : List Value) (now : Time.Instant) : Prop where
  types : CountsEach stats.eventsByType (numberWith events now "event_type")
  severities : CountsEach stats.severityDistribution (numberWith events now "severity")
  users : CountsEach stats.topUsers fun user =>
    if user = "" then 0 else numberWith events now "user" user
  processes : CountsEach stats.topProcesses fun process =>
    if process = "" then 0 else numberWith events now "process" process
  hours : CountsEach stats.eventsPerHour (numberAt events now)
  inDay : ∀ hour ∈ stats.eventsPerHour.keys, hour < 24
  agents : RemembersLast stats.activeAgents events

/-- Two statistics have the same counters, and the same instants of the agents. -/
structure SameTallies (stats other : Stats) : Prop where
  types : stats.eventsByType = other.eventsByType
  severities : stats.severityDistribution = other.severityDistribution
  users : stats.topUsers = other.topUsers
  processes : stats.topProcesses = other.topProcesses
  hours : stats.eventsPerHour = other.eventsPerHour
  instants : ∀ agent, (stats.activeAgents.get? agent).map Time.Stamp.instant =
    (other.activeAgents.get? agent).map Time.Stamp.instant

theorem tallies_of_compute (events : List Value) (now : Time.Instant) :
    Tallies (compute events now) events now where
  types := countsEach_countField events now "event_type"
  severities := countsEach_countField events now "severity"
  users := countsEach_countFilled events now "user"
  processes := countsEach_countFilled events now "process"
  hours := countsEach_countHours events now
  inDay := by
    intro hour counted
    obtain ⟨observation, -, rfl⟩ := List.mem_map.mp (mem_keys_countKeys.mp counted)
    exact Time.Instant.hour_clock_lt _ _
  agents := remembersLast_lastSeen events

theorem Tallies.same {stats other : Stats} {events reordered : List Value} {now : Time.Instant}
    (tallies : Tallies stats events now) (otherTallies : Tallies other reordered now)
    (perm : events.Perm reordered) : SameTallies stats other := by
  have sameNumber (wanted : Value → Time.Stamp → Bool) :
      numberOf events now wanted = numberOf reordered now wanted := perm.countP_eq _
  have sameNumberWith : numberWith events now = numberWith reordered now := by
    funext name text
    exact sameNumber _
  have sameNumberAt : numberAt events now = numberAt reordered now := by
    funext hour
    exact sameNumber _
  exact
    { types := tallies.types.unique otherTallies.types (by rw [sameNumberWith])
      severities := tallies.severities.unique otherTallies.severities (by rw [sameNumberWith])
      users := tallies.users.unique otherTallies.users (by rw [sameNumberWith])
      processes := tallies.processes.unique otherTallies.processes (by rw [sameNumberWith])
      hours := tallies.hours.unique otherTallies.hours sameNumberAt
      instants := tallies.agents.instant_eq otherTallies.agents fun _ => perm.mem_iff }

/-- The statistics of a store count its records exactly, and records in another
order have the same. -/
theorem tallies_compute {events reordered : List Value} (perm : events.Perm reordered)
    (now : Time.Instant) :
    Tallies (compute events now) events now ∧
      SameTallies (compute events now) (compute reordered now) :=
  ⟨tallies_of_compute events now,
    (tallies_of_compute events now).same (tallies_of_compute reordered now) perm⟩

/-- One instant on two clocks, a record without a user, and one that is two days
old. -/
def twoClocks : List Value :=
  [ .object
      [ ("agent_id", .string "web-1"), ("timestamp", .string "2024-05-01T09:30:00Z"),
        ("event_type", .string "user_login"), ("user", .string "ada") ],
    .object
      [ ("agent_id", .string "web-1"), ("timestamp", .string "2024-05-01T11:30:00+02:00"),
        ("event_type", .number (.natural 7)), ("user", .string "") ],
    .object
      [ ("agent_id", .string "db-1"), ("timestamp", .string "2024-04-29T08:00:00Z"),
        ("event_type", .string "user_login") ] ]

/-- 2024-05-01, 12:00 on the universal clock. -/
def twoClocksNow : Time.Instant := ⟨1714564800, 0⟩

/-- The two orders of the store remember different clocks, which show one instant. -/
theorem tallies_twoClocks :
    twoClocks.Perm twoClocks.reverse ∧
      (compute twoClocks twoClocksNow).eventsByType.entries = [("", 1), ("user_login", 1)] ∧
      Tallies (compute twoClocks twoClocksNow) twoClocks twoClocksNow ∧
      SameTallies (compute twoClocks twoClocksNow) (compute twoClocks.reverse twoClocksNow) := by
  have perm : twoClocks.Perm twoClocks.reverse := twoClocks.reverse_perm.symm
  exact ⟨perm, by decide, tallies_compute perm twoClocksNow⟩

end Demo.Stats

end EventConsole
