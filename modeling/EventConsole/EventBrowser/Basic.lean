import EventConsole.Event
import EventConsole.EventFilter
import EventConsole.Highlight
import EventConsole.Natural
import EventConsole.SortedMap

/-!
Contract: the state of browsing events page by page.

One page is loaded at a time; the rows shown are chosen from it by a filter. At
most one fetch is outstanding. An edited search applies after a quiet period: every
edit moves its deadline, and the first look at or after the deadline fires and clears
it. Times are milliseconds of a clock that never runs backwards.

Owns: quiet periods, the state, its initial value, filtering, selection and the detail
of one event.

Does not own: what loading does (`EventBrowser.Loading`) and what the table
shows (`EventBrowser.Table`).
-/

namespace EventConsole

/-! ### Quiet periods -/

structure Debounce where
  delay : Nat
  deadline : Option Int
deriving DecidableEq, Repr

namespace Debounce

def new (delay : Nat) : Debounce := ⟨delay, none⟩

/-- Notes activity. -/
def touch (debounce : Debounce) (now : Int) : Debounce :=
  { debounce with deadline := some (now + debounce.delay) }

def isDue (debounce : Debounce) (now : Int) : Bool :=
  debounce.deadline.any (fun deadline => deadline ≤ now)

/-- Whether the quiet period has ended, and the state after looking. -/
def fire (debounce : Debounce) (now : Int) : Bool × Debounce :=
  if debounce.isDue now then (true, { debounce with deadline := none })
  else (false, debounce)

end Debounce

/-! ### The state -/

/-- What the last step of loading or filtering led to. -/
inductive LoadPhase where
  | idle
  | loading
  | rendered
  | empty
  | failed
deriving DecidableEq, Repr

/-- The full record of one event, as highlighted lines. -/
structure EventDetail where
  title : String
  lines : List Highlight.TokenLine
  scroll : UInt16
deriving DecidableEq, Repr

structure EventBrowser where
  loaded : List Event
  /-- Positions in `loaded` of the rows shown. -/
  shown : List Nat
  currentPage : UInt32
  pageSize : UInt32
  totalPages : UInt32
  totalEvents : UInt64
  /-- The event types of all pages loaded so far. -/
  knownTypes : SortedMap String Unit
  loading : Bool
  phase : LoadPhase
  filter : EventFilter
  searchDelay : Debounce
  selected : Nat
  detail : Option EventDetail

namespace EventBrowser

def defaultPageSize : UInt32 := 50

/-- Quiet time in milliseconds before an edited search text is applied. -/
def searchQuiet : Nat := 300

def withPageSize (pageSize : UInt32) : EventBrowser where
  loaded := []
  shown := []
  currentPage := 1
  pageSize := max pageSize 1
  totalPages := 1
  totalEvents := 0
  knownTypes := SortedMap.empty
  loading := false
  phase := .idle
  filter := EventFilter.none
  searchDelay := Debounce.new searchQuiet
  selected := 0
  detail := none

def new : EventBrowser := withPageSize defaultPageSize

instance : Inhabited EventBrowser := ⟨new⟩

/-- The loaded event at a shown row. -/
def eventAt? (browser : EventBrowser) (row : Nat) : Option Event :=
  (browser.shown[row]?).bind fun i => browser.loaded[i]?

/-- The events of the shown rows, in order. -/
def shownEvents (browser : EventBrowser) : List Event :=
  browser.shown.filterMap fun i => browser.loaded[i]?

/-- The positions of the events that a filter admits, in order. -/
def admitted (filter : EventFilter) (events : List Event) : List Nat :=
  if filter.isActive then
    (events.zipIdx.filter fun (event, _) => filter.admits event).map Prod.snd
  else List.range events.length

/-- A row number brought into the range of the shown rows. -/
def clampRow (rows : List Nat) (row : Nat) : Nat := min row (rows.length - 1)

def phaseOf (shown : List Nat) : LoadPhase := if shown.isEmpty then .empty else .rendered

/-! ### Filtering -/

/-- Chooses the shown rows anew from the loaded page. -/
def applyFilter (browser : EventBrowser) : EventBrowser :=
  let shown := admitted browser.filter browser.loaded
  { browser with
    shown := shown
    selected := clampRow shown browser.selected
    phase := if browser.loading then browser.phase else phaseOf shown }

/-- Changes the search text; it is applied after a quiet time. -/
def setSearch (browser : EventBrowser) (text : String) (now : Int) : EventBrowser :=
  { browser with
    filter := { browser.filter with search := text }
    searchDelay := browser.searchDelay.touch now }

def pushSearch (browser : EventBrowser) (c : Char) (now : Int) : EventBrowser :=
  browser.setSearch (browser.filter.search.push c) now

/-- Removes the last character of the search text, if there is one. -/
def popSearch (browser : EventBrowser) (now : Int) : EventBrowser :=
  match browser.filter.search.toList.reverse with
  | [] => browser
  | _ :: kept => browser.setSearch (String.ofList kept.reverse) now

/-- Applies an edited search text once its quiet time is over; says whether it did. -/
def tick (browser : EventBrowser) (now : Int) : Bool × EventBrowser :=
  let (fired, delay) := browser.searchDelay.fire now
  let browser := { browser with searchDelay := delay }
  (fired, if fired then browser.applyFilter else browser)

def setSeverity (browser : EventBrowser) (severity : String) : EventBrowser :=
  { browser with filter := { browser.filter with severity := severity } }.applyFilter

def setEventType (browser : EventBrowser) (eventType : String) : EventBrowser :=
  { browser with filter := { browser.filter with eventType := eventType } }.applyFilter

/-- The severity filter after the present one: any, then each severity, then any. -/
def nextSeverity (current : String) : String :=
  match Severity.ofName? current with
  | none => Severity.low.name
  | some severity => (severity.next?.map Severity.name).getD ""

def cycleSeverity (browser : EventBrowser) : EventBrowser :=
  browser.setSeverity (nextSeverity browser.filter.severity)

/-- The type filter after the present one: any, then each known type in order, then any. -/
def nextType (known : SortedMap String Unit) (current : String) : String :=
  if current.isEmpty then known.keys.head?.getD ""
  else (known.keys.find? fun name => compare current name == .lt).getD ""

def cycleEventType (browser : EventBrowser) : EventBrowser :=
  browser.setEventType (nextType browser.knownTypes browser.filter.eventType)

def clearFilter (browser : EventBrowser) : EventBrowser :=
  { browser with filter := EventFilter.none }.applyFilter

/-! ### Selection -/

def select (browser : EventBrowser) (row : Nat) : EventBrowser :=
  { browser with selected := clampRow browser.shown row }

def selectNext (browser : EventBrowser) : EventBrowser := browser.select (browser.selected + 1)

def selectPrevious (browser : EventBrowser) : EventBrowser := browser.select (browser.selected - 1)

def selectLast (browser : EventBrowser) : EventBrowser := browser.select browser.shown.length

/-! ### Detail -/

def detailTitle (event : Event) : String :=
  match event.eventType, event.timestamp with
  | some eventType, some timestamp => eventType ++ " @ " ++ timestamp
  | some eventType, none => eventType
  | none, _ => "Event"

/-- Opens the record of a shown row; says whether there is such a row. -/
def openDetail (browser : EventBrowser) (row : Nat) : Bool × EventBrowser :=
  match browser.eventAt? row with
  | none => (false, browser)
  | some event =>
      (true,
        { browser with
          selected := row
          detail := some ⟨detailTitle event, Highlight.lines event.record, 0⟩ })

def openSelected (browser : EventBrowser) : Bool × EventBrowser :=
  browser.openDetail browser.selected

def closeDetail (browser : EventBrowser) : EventBrowser := { browser with detail := none }

/-- The number of the last line, in a signed word of 32 bits. -/
def EventDetail.lastLine (detail : EventDetail) : Int :=
  Int.bmod (detail.lines.length - 1 : Nat) (powerOf 2 32)

/-- Moves the detail by some lines, but not beyond its first or last line. The
position is a word of 16 bits. Where the last line has a negative number there are no
lines to stay between, and scrolling ends the console; here it leads to the first
line. -/
def EventDetail.scrollBy (detail : EventDetail) (delta : Int) : EventDetail :=
  let target := max 0 (min (EventDetail.lastLine detail) (detail.scroll.toNat + delta))
  { detail with scroll := UInt16.ofNat target.toNat }

def scrollDetail (browser : EventBrowser) (delta : Int) : EventBrowser :=
  { browser with detail := browser.detail.map (fun detail => EventDetail.scrollBy detail delta) }

end EventBrowser

end EventConsole
