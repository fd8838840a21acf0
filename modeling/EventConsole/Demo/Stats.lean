import EventConsole.Json.Value
import EventConsole.SortedMap
import EventConsole.Time.Rfc3339

/-!
Contract: statistics over a store of events.

Events without an agent or a readable time do not count. The counters look at
the last 24 hours; the agents and the logins look at everything.
-/

namespace EventConsole.Demo

open Json

/-- A stored event that counts, with its agent and time. -/
structure Observation where
  agent : String
  stamp : Time.Stamp
  event : Value

structure Stats where
  /-- When each agent was last seen. -/
  activeAgents : SortedMap String Time.Stamp
  eventsByType : SortedMap String Nat
  severityDistribution : SortedMap String Nat
  topUsers : SortedMap String Nat
  topProcesses : SortedMap String Nat
  /-- Hour of the day, on the clock of each event, to number of events. -/
  eventsPerHour : SortedMap Nat Nat
  lastLogins : List Value

namespace Stats

/-- The text of a field; what is no text counts as empty. -/
def field (event : Value) (name : String) : String := event.textMember name

def observation? (event : Value) : Option Observation :=
  match (event.member? "agent_id").bind Value.text? with
  | none => none
  | some agent =>
      (Time.Rfc3339.parse? (field event "timestamp").toList).map fun stamp => ⟨agent, stamp, event⟩

def observations (events : List Value) : List Observation := events.filterMap observation?

/-! ### Counters -/

/-- Length of the window of the counters. -/
def windowNanos : Int := 86400 * Time.nanosPerSecond

/-- Whether an event happened at most 24 hours before `now`. -/
def isRecent (now : Time.Instant) (observation : Observation) : Bool :=
  now.since observation.stamp.instant ≤ windowNanos

def addOne {κ : Type} [Ord κ] [Std.TransOrd κ] [Std.LawfulEqOrd κ] (counts : SortedMap κ Nat)
    (key : κ) : SortedMap κ Nat :=
  counts.upsert key fun count => count.getD 0 + 1

/-- How often each key occurs. -/
def countKeys {κ : Type} [Ord κ] [Std.TransOrd κ] [Std.LawfulEqOrd κ] (keys : List κ) :
    SortedMap κ Nat :=
  keys.foldl addOne SortedMap.empty

/-- How often each text of a field occurs. -/
def countField (observed : List Observation) (name : String) : SortedMap String Nat :=
  countKeys (observed.map fun observation => field observation.event name)

/-- How often each text of a field occurs, without the empty one. -/
def countFilled (observed : List Observation) (name : String) : SortedMap String Nat :=
  countKeys ((observed.map fun observation => field observation.event name).filter fun text =>
    !text.isEmpty)

/-! ### Agents and logins -/

/-- The later of two times; of equal ones the earlier read. -/
def later (seen : Option Time.Stamp) (stamp : Time.Stamp) : Time.Stamp :=
  match seen with
  | none => stamp
  | some seen => if seen.instant.before stamp.instant then stamp else seen

def lastSeen (observed : List Observation) : SortedMap String Time.Stamp :=
  observed.foldl (fun agents observation =>
    agents.upsert observation.agent fun seen => later seen observation.stamp) SortedMap.empty

def isLogin (observation : Observation) : Bool :=
  field observation.event "event_type" ∈ ["user_login", "auth_failure"]

def notEarlier (a b : Observation) : Bool := !a.stamp.instant.before b.stamp.instant

/-- Number of logins listed. -/
def loginCount : Nat := 10

/-- The newest logins; equal times keep the order of the store. -/
def newestLogins (observed : List Observation) : List Value :=
  (((observed.filter isLogin).mergeSort notEarlier).take loginCount).map Observation.event

/-! ### The whole -/

def compute (events : List Value) (now : Time.Instant) : Stats :=
  let observed := observations events
  let recent := observed.filter (isRecent now)
  { activeAgents := lastSeen observed
    eventsByType := countField recent "event_type"
    severityDistribution := countField recent "severity"
    topUsers := countFilled recent "user"
    topProcesses := countFilled recent "process"
    eventsPerHour := countKeys (recent.map fun observation => observation.stamp.clock.hour)
    lastLogins := newestLogins observed }

def mapJson {κ ν : Type} [Ord κ] (key : κ → String) (value : ν → Value) (map : SortedMap κ ν) :
    Value :=
  .object (map.entries.map fun entry => (key entry.1, value entry.2))

def toJson (stats : Stats) : Value :=
  .object
    [("active_agents",
        mapJson id (fun stamp => .string (String.ofList stamp.text)) stats.activeAgents),
      ("events_by_type", mapJson id Value.ofNat stats.eventsByType),
      ("severity_distribution", mapJson id Value.ofNat stats.severityDistribution),
      ("top_users", mapJson id Value.ofNat stats.topUsers),
      ("top_processes", mapJson id Value.ofNat stats.topProcesses),
      ("events_per_hour", mapJson toString Value.ofNat stats.eventsPerHour),
      ("last_logins", .array stats.lastLogins)]

end Stats

end EventConsole.Demo
