import EventConsole.Json.Decode

/-!
Contract: security events as the server reports them, and pages of them.

Events carry severity as free text; only the four exact names are severities.

Nine fields of an event are known and optional. All other members of the record are
kept in `extra`, in their order, and the record as received is kept whole in `raw`.

For a page the server reports the number of all events and of the events on the page;
older servers reported only the latter. Every field may be missing.

Owns: severities; reading an event, writing it, and the record, address and summary
shown for it; reading a page and its counts.
-/

namespace EventConsole

/-! ### Severities -/

inductive Severity where
  | low
  | medium
  | high
  | critical
deriving DecidableEq, Repr

namespace Severity

/-- All severities, mildest first. -/
def all : List Severity := [.low, .medium, .high, .critical]

def name : Severity → String
  | .low => "low"
  | .medium => "medium"
  | .high => "high"
  | .critical => "critical"

/-- Name of a severity with a capital, as charts label it. -/
def title : Severity → String
  | .low => "Low"
  | .medium => "Medium"
  | .high => "High"
  | .critical => "Critical"

def ofName? (text : String) : Option Severity := all.find? (fun severity => severity.name = text)

/-- The next graver severity, if there is one. -/
def next? : Severity → Option Severity
  | .low => some .medium
  | .medium => some .high
  | .high => some .critical
  | .critical => none

end Severity

/-! ### Events -/

open Json

structure Event where
  timestamp : Option String
  agentId : Option String
  eventType : Option String
  severity : Option String
  user : Option String
  sourceIp : Option String
  ip : Option String
  message : Option String
  rawLog : Option String
  extra : Members
  /-- The record as received; null when there was none. -/
  raw : Value
deriving Inhabited

/-- Text that is present and not empty. -/
def filled (text : Option String) : Option String := text.filter (fun value => !value.isEmpty)

/-- Present text, or a dash where it is missing or empty. -/
def orDash (text : Option String) : String := (filled text).getD "-"

namespace Event

/-- The names of the known fields, in the order in which they are written. -/
def knownNames : List String :=
  ["timestamp", "agent_id", "event_type", "severity", "user", "source_ip", "ip", "message",
    "raw_log"]

/-- Reads an event from an object, and from nothing else. -/
def ofJson? (raw : Value) : Option Event := do
  let members ← raw.members?
  let field (name : String) := Value.optional? Value.text? (lookup? name members)
  return {
    timestamp := ← field "timestamp"
    agentId := ← field "agent_id"
    eventType := ← field "event_type"
    severity := ← field "severity"
    user := ← field "user"
    sourceIp := ← field "source_ip"
    ip := ← field "ip"
    message := ← field "message"
    rawLog := ← field "raw_log"
    extra := members.filter (fun member => !knownNames.contains member.1)
    raw := raw }

/-- The known fields with their names. -/
def knownFields (event : Event) : List (String × Option String) :=
  [ ("timestamp", event.timestamp), ("agent_id", event.agentId),
    ("event_type", event.eventType), ("severity", event.severity), ("user", event.user),
    ("source_ip", event.sourceIp), ("ip", event.ip), ("message", event.message),
    ("raw_log", event.rawLog) ]

/-- The present fields in order, then the extra members. -/
def toJson (event : Event) : Value :=
  .object (event.knownFields.filterMap (fun (name, text) =>
    text.map (fun value => (name, Value.string value))) ++ event.extra)

/-- The full record: as received, or else from the fields. -/
def record (event : Event) : Value :=
  match event.raw with
  | .null => event.toJson
  | raw => raw

/-- Source address; older servers report it as `ip`. -/
def address (event : Event) : Option String := filled event.sourceIp <|> filled event.ip

/-- The message, or else the raw log line. -/
def summary (event : Event) : Option String := filled event.message <|> filled event.rawLog

end Event

/-! ### Pages -/

structure EventsPage where
  status : Option String
  data : Option (List Event)
  total : Option UInt64
  count : Option UInt64
  totalPages : Option UInt32
  page : Option UInt32
  limit : Option UInt32
deriving Inhabited

namespace EventsPage

def fieldNames : List String :=
  ["status", "data", "total", "count", "totalPages", "page", "limit"]

def ofJson? (value : Value) : Option EventsPage := do
  let field ← value.fields? fieldNames
  return {
    status := ← Value.optional? Value.text? (field "status")
    data := ← Value.optional? (Value.listOf? Event.ofJson?) (field "data")
    total := ← Value.optional? Value.natural? (field "total")
    count := ← Value.optional? Value.natural? (field "count")
    totalPages := ← Value.optional? Value.word32? (field "totalPages")
    page := ← Value.optional? Value.word32? (field "page")
    limit := ← Value.optional? Value.word32? (field "limit") }

def word32Json : Option UInt32 → Value
  | some value => Value.ofNat value.toNat
  | none => .null

def word64Json : Option UInt64 → Value
  | some value => .number (.natural value)
  | none => .null

def toJson (page : EventsPage) : Value :=
  .object
    [ ("status", Value.ofText? page.status),
      ("data", match page.data with
        | some events => .array (events.map Event.toJson)
        | none => .null),
      ("total", word64Json page.total),
      ("count", word64Json page.count),
      ("totalPages", word32Json page.totalPages),
      ("page", word32Json page.page),
      ("limit", word32Json page.limit) ]

/-- The page reports success and carries data. -/
def isSuccess (page : EventsPage) : Bool := page.status == some "success" && page.data.isSome

/-- Number of all events: the total, or the count where no total is given. -/
def totalEvents (page : EventsPage) : UInt64 :=
  match page.total with
  | some total => if 0 < total then total else page.count.getD 0
  | none => page.count.getD 0

/-- Number of pages, which is never below one. -/
def pageCount (page : EventsPage) : UInt32 :=
  (page.totalPages.filter (fun count => 0 < count)).getD 1

end EventsPage

end EventConsole
