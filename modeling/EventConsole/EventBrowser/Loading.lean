import EventConsole.Client.Failure
import EventConsole.EventBrowser.Basic

/-!
Contract: fetching pages of events.

A fetch is begun for the current page and finished by exactly one outcome. While
one is outstanding no other can begin, and the page cannot be changed.
-/

namespace EventConsole.EventBrowser

/-- A page asked of the server. -/
structure Fetch where
  page : UInt32
  limit : UInt32
deriving DecidableEq, Repr

/-- Begins a fetch of the current page, unless one is outstanding. -/
def beginLoad (browser : EventBrowser) : Option UInt32 × EventBrowser :=
  if browser.loading then (none, browser)
  else (some browser.currentPage, { browser with loading := true, phase := .loading })

/-- Begins a fetch and says what to ask for. -/
def load (browser : EventBrowser) : Option Fetch × EventBrowser :=
  match browser.beginLoad with
  | (none, browser) => (none, browser)
  | (some page, browser) => (some ⟨page, browser.pageSize⟩, browser)

theorem load_eq (browser : EventBrowser) :
    browser.load =
      if browser.loading then (none, browser)
      else
        (some ⟨browser.currentPage, browser.pageSize⟩,
          { browser with loading := true, phase := .loading }) := by
  unfold load beginLoad
  cases browser.loading <;> rfl

def canGoBack (browser : EventBrowser) : Bool := 1 < browser.currentPage && !browser.loading

def canGoOn (browser : EventBrowser) : Bool :=
  browser.currentPage < browser.totalPages && !browser.loading

/-- Fetches the page before, if there is one and nothing is outstanding. -/
def previousPage (browser : EventBrowser) : Option Fetch × EventBrowser :=
  if browser.canGoBack then
    load { browser with currentPage := browser.currentPage - 1 }
  else (none, browser)

/-- Fetches the page after, if there is one and nothing is outstanding. -/
def nextPage (browser : EventBrowser) : Option Fetch × EventBrowser :=
  if browser.canGoOn then
    load { browser with currentPage := browser.currentPage + 1 }
  else (none, browser)

/-- Adds the event types of a page to those known. -/
def learnTypes (known : SortedMap String Unit) (events : List Event) : SortedMap String Unit :=
  events.foldl (fun known event =>
    match filled event.eventType with
    | some eventType => known.insert eventType ()
    | none => known) known

/-- Takes the outcome of the outstanding fetch. A page without success or data
empties the table; a failure keeps the rows behind the error. -/
def finishLoad (browser : EventBrowser) (outcome : Except Failure EventsPage) : EventBrowser :=
  match outcome with
  | .error _ => { browser with loading := false, phase := .failed }
  | .ok page =>
      if page.isSuccess then
        let events := page.data.getD []
        let shown := List.range events.length
        { browser with
          loading := false
          totalPages := page.pageCount
          totalEvents := page.totalEvents
          loaded := events
          shown := shown
          knownTypes := learnTypes browser.knownTypes events
          selected := 0
          phase := phaseOf shown }
      else
        { browser with
          loading := false
          loaded := []
          shown := []
          totalEvents := 0
          selected := 0
          phase := .empty }

end EventConsole.EventBrowser
