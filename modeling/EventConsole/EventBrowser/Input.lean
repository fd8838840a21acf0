import EventConsole.EventBrowser.Loading
import EventConsole.Input
import EventConsole.Screen.Canvas

/-!
Contract: keys and mouse on the events screen.

An open detail takes every key, then a focused search box does, and only then
the table. What needs the server is given back as an action.

Owns: the places remembered from the last drawing, and hit-testing of rows.
-/

namespace EventConsole

open Screen

/-- Places of the last drawing of the events screen. -/
structure EventsLayout where
  table : Rect
  previous : Rect
  next : Rect
deriving DecidableEq, Repr

def EventsLayout.none : EventsLayout := ⟨Rect.empty, Rect.empty, Rect.empty⟩

/-- The row of a table under a cell, given the scroll offset. The border and the
header are no rows. -/
def rowAt? (table : Rect) (offset column row : Nat) : Option Nat :=
  let firstRow := table.y + 2
  let lastRow := table.y + (table.height - 1)
  if column ≤ table.x ∨ table.x + (table.width - 1) ≤ column then none
  else if row < firstRow ∨ lastRow ≤ row then none
  else some (offset + (row - firstRow))

/-- What the events screen asks of its owner. -/
inductive EventsAction where
  | nothing
  | reload
  | previousPage
  | nextPage
deriving DecidableEq, Repr

/-- The browsing state with the focus of the search box. -/
structure EventsFocus where
  browser : EventBrowser
  searching : Bool

namespace EventBrowser

def handleDetailKey (browser : EventBrowser) : Key → EventBrowser
  | .escape | .char 'x' | .char 'q' => browser.closeDetail
  | .up => browser.scrollDetail (-1)
  | .down => browser.scrollDetail 1
  | .pageUp => browser.scrollDetail (-10)
  | .pageDown => browser.scrollDetail 10
  | _ => browser

def handleSearchKey (browser : EventBrowser) (now : Int) : Key → EventsFocus
  | .escape | .enter => ⟨browser, false⟩
  | .backspace => ⟨browser.popSearch now, true⟩
  | .char c => ⟨browser.pushSearch c now, true⟩
  | _ => ⟨browser, true⟩

/-- Keys of the table that only change the browsing state. -/
def handleTableKey (browser : EventBrowser) : Key → EventBrowser
  | .char 's' => browser.cycleSeverity
  | .char 't' => browser.cycleEventType
  | .char 'c' => browser.clearFilter
  | .up => browser.selectPrevious
  | .down => browser.selectNext
  | .home => browser.select 0
  | .endKey => browser.selectLast
  | .enter => browser.openSelected.2
  | _ => browser

/-- Keys of the table that need the server. -/
def tableAction : Key → EventsAction
  | .char 'r' => .reload
  | .left | .pageUp => .previousPage
  | .right | .pageDown => .nextPage
  | _ => .nothing

def handleKey (browser : EventBrowser) (searching : Bool) (key : Key) (now : Int) :
    EventsAction × EventsFocus :=
  if browser.detail.isSome then (.nothing, ⟨browser.handleDetailKey key, searching⟩)
  else if searching then (.nothing, browser.handleSearchKey now key)
  else if key = .char '/' then (.nothing, ⟨browser, true⟩)
  else (tableAction key, ⟨browser.handleTableKey key, false⟩)

/-- The mouse over an open detail: a click outside closes it, the wheel scrolls it. -/
def handleDetailMouse (browser : EventBrowser) (detailArea : Option Rect) (event : MouseEvent) :
    EventBrowser :=
  match event.action with
  | .leftDown =>
      if detailArea.any (fun area => !area.contains event.column event.row) then
        browser.closeDetail
      else browser
  | .scrollUp => browser.scrollDetail (-1)
  | .scrollDown => browser.scrollDetail 1
  | _ => browser

def handleClick (browser : EventBrowser) (layout : EventsLayout) (offset column row : Nat) :
    EventsAction × EventBrowser :=
  if layout.previous.contains column row then (.previousPage, browser)
  else if layout.next.contains column row then (.nextPage, browser)
  else
    match rowAt? layout.table offset column row with
    | some index => (.nothing, (browser.openDetail index).2)
    | none => (.nothing, browser)

def handleMouse (browser : EventBrowser) (layout : EventsLayout) (offset : Nat)
    (detailArea : Option Rect) (event : MouseEvent) : EventsAction × EventBrowser :=
  if browser.detail.isSome then (.nothing, browser.handleDetailMouse detailArea event)
  else
    let overTable := layout.table.contains event.column event.row
    match event.action with
    | .leftDown => browser.handleClick layout offset event.column event.row
    | .scrollUp => (.nothing, if overTable then browser.selectPrevious else browser)
    | .scrollDown => (.nothing, if overTable then browser.selectNext else browser)
    | _ => (.nothing, browser)

end EventBrowser

end EventConsole
