import EventConsole.Event
import EventConsole.Json.Printer
import EventConsole.Json.Token
import EventConsole.SortedMap

/-!
Contract: the aggregates that the server reports for the dashboard.

Every field may be missing. Maps are kept in key order; hours of the day are
numbers of one byte, written in their shortest decimal form.
-/

namespace EventConsole

open Json

structure StatsSnapshot where
  /-- Agent to the time it was last seen. -/
  activeAgents : Option (SortedMap String String)
  lastLogins : Option (List Event)
  eventsByType : Option (SortedMap String UInt64)
  severityDistribution : Option (SortedMap String UInt64)
  topProcesses : Option (SortedMap String UInt64)
  topUsers : Option (SortedMap String UInt64)
  /-- Hour of the day to its number of events. -/
  eventsPerHour : Option (SortedMap UInt8 UInt64)
deriving Inhabited

namespace StatsSnapshot

def fieldNames : List String :=
  ["active_agents", "last_logins", "events_by_type", "severity_distribution", "top_processes",
    "top_users", "events_per_hour"]

/-- Reads an object as a map from its names. -/
def mapOf? {κ ν : Type} [Ord κ] [Std.TransOrd κ] [Std.LawfulEqOrd κ]
    (key : String → Option κ) (decode : Value → Option ν) (value : Value) :
    Option (SortedMap κ ν) := do
  let members ← value.members?
  let entries ← members.mapM fun (name, item) => do return (← key name, ← decode item)
  return SortedMap.ofList entries

/-- An hour key: a number of one byte in its shortest decimal form. -/
def hourKey? (name : String) : Option UInt8 :=
  match number? false name.toList with
  | some (some (.natural value), []) => if value.toNat < 256 then some value.toUInt8 else none
  | _ => none

def textMap? : Value → Option (SortedMap String String) := mapOf? some Value.text?

def countMap? : Value → Option (SortedMap String UInt64) := mapOf? some Value.natural?

def hourMap? : Value → Option (SortedMap UInt8 UInt64) := mapOf? hourKey? Value.natural?

def ofJson? (value : Value) : Option StatsSnapshot := do
  let field ← value.fields? fieldNames
  return {
    activeAgents := ← Value.optional? textMap? (field "active_agents")
    lastLogins := ← Value.optional? (Value.listOf? Event.ofJson?) (field "last_logins")
    eventsByType := ← Value.optional? countMap? (field "events_by_type")
    severityDistribution := ← Value.optional? countMap? (field "severity_distribution")
    topProcesses := ← Value.optional? countMap? (field "top_processes")
    topUsers := ← Value.optional? countMap? (field "top_users")
    eventsPerHour := ← Value.optional? hourMap? (field "events_per_hour") }

/-- Writes a map as an object with its keys in order. -/
def mapJson {κ ν : Type} [Ord κ] (key : κ → String) (write : ν → Value) :
    Option (SortedMap κ ν) → Value
  | none => .null
  | some map => .object (map.entries.map fun (k, v) => (key k, write v))

def count (value : UInt64) : Value := .number (.natural value)

def countMapJson : Option (SortedMap String UInt64) → Value := mapJson id count

def toJson (stats : StatsSnapshot) : Value :=
  .object
    [ ("active_agents", mapJson id .string stats.activeAgents),
      ("last_logins", match stats.lastLogins with
        | some events => .array (events.map Event.toJson)
        | none => .null),
      ("events_by_type", countMapJson stats.eventsByType),
      ("severity_distribution", countMapJson stats.severityDistribution),
      ("top_processes", countMapJson stats.topProcesses),
      ("top_users", countMapJson stats.topUsers),
      ("events_per_hour",
        mapJson (fun hour => String.ofList (natText hour.toNat)) count stats.eventsPerHour) ]

end StatsSnapshot

end EventConsole
