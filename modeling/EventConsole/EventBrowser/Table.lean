import EventConsole.EventBrowser.Loading
import EventConsole.Time.Rfc3339

/-!
Contract: what the events screen shows of the browsing state.

Owns: the rows of the table, the placeholders in their stead, and the line that
tells which part of all events the page is.
-/

namespace EventConsole.EventBrowser

structure Row where
  timestamp : String
  agentId : String
  eventType : String
  severity : String
  user : String
  message : String
deriving DecidableEq, Repr

/-- An event as a row; a missing severity is low. -/
def Row.ofEvent (event : Event) : Row where
  timestamp := Time.fullDisplay event.timestamp
  agentId := orDash event.agentId
  eventType := orDash event.eventType
  severity := (filled event.severity).getD Severity.low.name
  user := orDash event.user
  message := event.summary.getD "-"

inductive TableContent where
  | loading
  | noData
  | failed
  | rows (rows : List Row)
deriving DecidableEq, Repr

def content (browser : EventBrowser) : TableContent :=
  match browser.phase with
  | .loading => .loading
  | .failed => .failed
  | .idle | .empty => .noData
  | .rendered =>
      if browser.shown.isEmpty then .noData
      else .rows (browser.shownEvents.map Row.ofEvent)

/-- The place of the page among all pages and events. -/
structure Pagination where
  page : UInt32
  totalPages : UInt32
  start : UInt64
  stop : UInt64
  total : UInt64
  canGoBack : Bool
  canGoOn : Bool
deriving DecidableEq, Repr

def pagination (browser : EventBrowser) : Pagination :=
  let size := browser.pageSize.toUInt64
  let page := browser.currentPage.toUInt64
  { page := browser.currentPage
    totalPages := browser.totalPages
    start := (page - 1) * size + 1
    stop := min (page * size) browser.totalEvents
    total := browser.totalEvents
    canGoBack := browser.canGoBack
    canGoOn := browser.canGoOn }

def Pagination.label (pagination : Pagination) : String :=
  if pagination.total = 0 then "Showing 0-0 of 0"
  else
    "Showing " ++ toString pagination.start ++ "-" ++ toString pagination.stop ++ " of " ++
      toString pagination.total

def totalLabel (browser : EventBrowser) : String := "Total: " ++ toString browser.totalEvents

end EventConsole.EventBrowser
