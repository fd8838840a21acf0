import EventConsole.Dashboard.ChartSlot
import EventConsole.StatsSnapshot
import EventConsole.Theme
import EventConsole.Time.Rfc3339

/-!
Contract: what the dashboard shows of a stats snapshot.

Four list panels and four chart slots each take their field of the snapshot, and
show a placeholder where it is missing or empty.
-/

namespace EventConsole

/-- A list panel: placeholder text, or rows. -/
inductive Panel (α : Type) where
  | placeholder (text : String)
  | items (rows : List α)
deriving DecidableEq, Repr

/-- Rows, or the placeholder when there are none. -/
def Panel.ofItems {α : Type} (rows : List α) (empty : String) : Panel α :=
  if rows.isEmpty then .placeholder empty else .items rows

structure AgentRow where
  id : String
  online : Bool
  seenAgo : String
deriving DecidableEq, Repr

structure LoginRow where
  timestamp : String
  user : String
  success : Bool
  ip : String
deriving DecidableEq, Repr

structure HostRow where
  name : String
  agent : String
deriving DecidableEq, Repr

structure UserRow where
  name : String
  count : UInt64
deriving DecidableEq, Repr

structure DashboardView where
  agents : Panel AgentRow
  logins : Panel LoginRow
  hosts : Panel HostRow
  users : Panel UserRow
  eventsByType : ChartSlot
  severity : ChartSlot
  processes : ChartSlot
  timeline : ChartSlot
  lastRefresh : Option Time.Instant
deriving DecidableEq, Repr

namespace DashboardView

def noAgents : String := "No active agents"
def noHosts : String := "No active hosts"
def noAnalysis : String := "No data to analyze"
def noChartData : String := "No data"
def loadFailed : String := "Failed to load data"

/-- An agent seen less than five minutes ago is online. -/
def onlineSeconds : Int := 300

/-- Number of entries in the top lists. -/
def topCount : Nat := 5

def initial : DashboardView where
  agents := .placeholder noAgents
  logins := .placeholder noAnalysis
  hosts := .placeholder noHosts
  users := .placeholder noAnalysis
  eventsByType := .empty
  severity := .empty
  processes := .empty
  timeline := .empty
  lastRefresh := none

/-! ### Agents -/

/-- An agent with the instant it was last seen, if that can be read. -/
structure Sighting where
  id : String
  seen : Option Time.Instant
deriving Repr

def Sighting.ofEntry (entry : String × String) : Sighting :=
  ⟨entry.1, (Time.Rfc3339.parse? entry.2.toList).map Time.Stamp.instant⟩

/-- Newest first; agents without a readable time come last. -/
def Sighting.notLater (a b : Sighting) : Bool :=
  match a.seen, b.seen with
  | some x, some y => !x.before y
  | none, some _ => false
  | _, none => true

def agentRow (now : Time.Instant) (sighting : Sighting) : AgentRow where
  id := sighting.id
  online := sighting.seen.any fun seen => now.secondsSince seen < onlineSeconds
  seenAgo := (sighting.seen.map fun seen => Time.ago seen now).getD "-"

/-- One row for each agent. -/
def agentRows (agents : SortedMap String String) (now : Time.Instant) : List AgentRow :=
  ((agents.entries.map Sighting.ofEntry).mergeSort Sighting.notLater).map (agentRow now)

def agentPanel (agents : Option (SortedMap String String)) (now : Time.Instant) : Panel AgentRow :=
  match agents with
  | none => .placeholder noAgents
  | some agents => Panel.ofItems (agentRows agents now) noAgents

/-! ### Lists -/

def loginRow (event : Event) : LoginRow where
  timestamp := Time.shortDisplay event.timestamp
  user := orDash event.user
  success := event.eventType == some "user_login"
  ip := event.address.getD "-"

def loginPanel (logins : Option (List Event)) : Panel LoginRow :=
  Panel.ofItems ((logins.getD []).map loginRow) noAnalysis

/-- The part of an agent's name before the first hyphen, or all of it when that
part is empty. -/
def hostOfAgent (agent : String) : String :=
  match agent.toList.takeWhile (· ≠ '-') with
  | [] => agent
  | host => String.ofList host

def hostPanel (agents : Option (SortedMap String String)) : Panel HostRow :=
  let names := (agents.map SortedMap.keys).getD []
  Panel.ofItems ((names.take topCount).map fun agent => ⟨hostOfAgent agent, agent⟩) noHosts

/-- The entries with the highest counts; equal counts keep the order of keys. -/
def top (counts : SortedMap String UInt64) : List (String × UInt64) :=
  (counts.entries.mergeSort fun a b => b.2 ≤ a.2).take topCount

def userPanel (users : Option (SortedMap String UInt64)) : Panel UserRow :=
  let entries := (users.map top).getD []
  Panel.ofItems (entries.map fun (name, count) => ⟨name, count⟩) noAnalysis

/-! ### Charts -/

/-- Shows data made from a map, or the placeholder for a missing or empty one. -/
def showMap {κ : Type} [Ord κ] (slot : ChartSlot) (map : Option (SortedMap κ UInt64))
    (display : SortedMap κ UInt64 → ChartSlot) : ChartSlot :=
  match map with
  | some map => if map.isEmpty then slot.showPlaceholder noChartData else display map
  | none => slot.showPlaceholder noChartData

def showTypes (slot : ChartSlot) (types : Option (SortedMap String UInt64)) : ChartSlot :=
  showMap slot types fun map =>
    slot.display .doughnut map.keys map.values ((List.range map.size).map Theme.series)

/-- The severities that a map counts, mildest first. -/
def presentSeverities (counts : SortedMap String UInt64) : List (Severity × UInt64) :=
  Severity.all.filterMap fun severity =>
    (counts.get? severity.name).map fun count => (severity, count)

def showSeverities (slot : ChartSlot) (counts : Option (SortedMap String UInt64)) : ChartSlot :=
  showMap slot counts fun map =>
    let present := presentSeverities map
    slot.display .bar (present.map fun entry => entry.1.title) (present.map Prod.snd)
      (present.map fun entry => Theme.severityColor entry.1)

def showProcesses (slot : ChartSlot) (counts : Option (SortedMap String UInt64)) : ChartSlot :=
  showMap slot counts fun map =>
    slot.display .horizontalBar ((top map).map Prod.fst) ((top map).map Prod.snd) [Theme.info]

def hourLabel (hour : Nat) : String := String.ofList (Time.zeroPadded 2 hour) ++ ":00"

def hours : List Nat := List.range 24

def showTimeline (slot : ChartSlot) (perHour : Option (SortedMap UInt8 UInt64)) : ChartSlot :=
  showMap slot perHour fun map =>
    slot.display .line (hours.map hourLabel)
      (hours.map fun hour => (map.get? (UInt8.ofNat hour)).getD 0) [Theme.info]

/-! ### The whole view -/

/-- Hands every field of a snapshot to its panel or slot. -/
def render (view : DashboardView) (stats : StatsSnapshot) (now : Time.Instant) : DashboardView :=
  { view with
    agents := agentPanel stats.activeAgents now
    logins := loginPanel stats.lastLogins
    hosts := hostPanel stats.activeAgents
    users := userPanel stats.topUsers
    eventsByType := showTypes view.eventsByType stats.eventsByType
    severity := showSeverities view.severity stats.severityDistribution
    processes := showProcesses view.processes stats.topProcesses
    timeline := showTimeline view.timeline stats.eventsPerHour }

/-- Every panel and slot shows that loading failed; charts are kept. -/
def showFailure (view : DashboardView) : DashboardView :=
  { view with
    agents := .placeholder loadFailed
    logins := .placeholder loadFailed
    hosts := .placeholder loadFailed
    users := .placeholder loadFailed
    eventsByType := view.eventsByType.showPlaceholder loadFailed
    severity := view.severity.showPlaceholder loadFailed
    processes := view.processes.showPlaceholder loadFailed
    timeline := view.timeline.showPlaceholder loadFailed }

end DashboardView

end EventConsole
