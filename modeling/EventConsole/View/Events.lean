import EventConsole.EventBrowser.Input
import EventConsole.EventBrowser.Table
import EventConsole.Screen.Table
import EventConsole.Text.LetterCase
import EventConsole.View.Panel

/-!
Contract: the events screen and the detail of one event over it.

From top to bottom: the filter, the table of events, and a line with the page
and its two buttons. Drawing gives the places of table, buttons and detail, so
that the mouse can be told where it is.
-/

namespace EventConsole.View

open Screen

/-! ### Filter -/

def searchSpan (filter : EventFilter) (focused : Bool) : Span :=
  if filter.search.isEmpty && !focused then mutedSpan "press / to search"
  else Span.plain (fieldText filter.search focused)

def upperText (text : String) : String := String.ofList (Text.upperCase text.toList)

def severitySpan (filter : EventFilter) : Span :=
  if filter.severity.isEmpty then Span.plain "All"
  else
    Span.styled (upperText filter.severity) (Style.fg (Theme.severityTextColor filter.severity))

def typeText (browser : EventBrowser) : String :=
  if browser.filter.eventType.isEmpty then
    "All (" ++ toString browser.knownTypes.size ++ " known)"
  else browser.filter.eventType

/-- The border of a filter field; a filter in use stands out. -/
def filterBorder (inUse : Bool) : Style := Style.fg (if inUse then .cyan else Theme.border)

def drawFilter (canvas : Canvas) (area : Rect) (browser : EventBrowser) (focused : Bool) : Canvas :=
  let columns := Layout.columns area [.atLeast 20, .fixed 20, .fixed 28, .fixed 16]
  let filter := browser.filter
  let canvas := canvas.drawPanel (Layout.part columns 0)
    (Block.titled "Search (message / raw log)" (filterBorder focused))
    [Line.ofSpan (searchSpan filter focused)]
  let canvas := canvas.drawPanel (Layout.part columns 1)
    (Block.titled "Severity [s]" (filterBorder !filter.severity.isEmpty))
    [Line.ofSpan (severitySpan filter)]
  let canvas := canvas.drawPanel (Layout.part columns 2)
    (Block.titled "Type [t]" (filterBorder !filter.eventType.isEmpty))
    (linesOfText (typeText browser))
  canvas.drawPanel (Layout.part columns 3) ⟨.all, filterBorder false, none⟩
    (linesOfText browser.totalLabel)

/-! ### Table -/

/-- Time, agent, type, severity, user and message. -/
def eventColumns : List Layout.Size :=
  [.fixed 19, .fixed 18, .fixed 20, .fixed 9, .fixed 14, .atLeast 20]

def eventCells (row : EventBrowser.Row) : List TableCell :=
  let severity := (Style.fg (Theme.severityTextColor row.severity)).strong
  [TableCell.ofText row.timestamp (Style.fg Theme.muted),
    TableCell.ofText row.agentId Style.plain,
    TableCell.ofText row.eventType Style.plain,
    TableCell.ofText (upperText row.severity) severity,
    TableCell.ofText row.user Style.plain,
    TableCell.ofText row.message Style.plain]

/-- A row that holds a notice in place of events. -/
def noticeCells (text : String) (color : Color) : List TableCell :=
  [⟨Line.ofSpan (Span.styled text (Style.fg color)), Style.plain⟩]

def notice : EventBrowser.TableContent → List TableCell
  | .loading => noticeCells "Loading..." Theme.muted
  | .noData => noticeCells "No events to display" Theme.muted
  | .failed => noticeCells "Failed to load data" Theme.danger
  | .rows _ => []

def eventTable (rows : List (List TableCell)) (sizes : List Layout.Size) : Table where
  header := ["Time", "Agent", "Type", "Severity", "User", "Message"].map fun title =>
    TableCell.ofText title Style.plain
  headerStyle := headingStyle
  rows := rows
  sizes := sizes
  block := panel "Events (↑/↓ select, Enter details, ←/→ page)"
  mark := "▶ "
  markStyle := (Style.bg Theme.highlight).strong

/-- Draws the rows, or a notice across the whole width that cannot be selected. -/
def drawEventTable (canvas : Canvas) (area : Rect) (browser : EventBrowser) (view : TableView) :
    Canvas × TableView :=
  match browser.content with
  | .rows rows =>
      canvas.drawTable area (eventTable (rows.map eventCells) eventColumns)
        (view.select (some browser.selected))
  | content =>
      canvas.drawTable area (eventTable [notice content] [.share 100]) (view.select none)

/-! ### Page line -/

def previousLabel : String := "[◀ Prev]"

def nextLabel : String := "[Next ▶]"

def buttonStyle (enabled : Bool) : Style :=
  if enabled then (Style.fg .cyan).strong else Style.fg Theme.border

def pageText (pagination : EventBrowser.Pagination) : String :=
  "  page " ++ toString pagination.page ++ "/" ++ toString pagination.totalPages ++ "  "

def pageLine (pagination : EventBrowser.Pagination) : Line :=
  ⟨[Span.styled previousLabel (buttonStyle pagination.canGoBack),
    Span.plain (pageText pagination),
    Span.styled nextLabel (buttonStyle pagination.canGoOn),
    mutedSpan ("   " ++ pagination.label)]⟩

/-- The place of the button for the page before. -/
def previousArea (area : Rect) : Rect :=
  ⟨area.x, area.y, min previousLabel.length area.width, 1⟩

/-- The place of the button for the page after, behind the page number. Its column is
a word of 16 bits. A sum beyond the word ends a console that checks its sums; here it
starts again at zero. -/
def nextArea (area : Rect) (pagination : EventBrowser.Pagination) : Rect :=
  let offset := previousLabel.length + (pageText pagination).length
  ⟨(area.x + offset) % powerOf 2 16, area.y, min nextLabel.length (area.width - offset), 1⟩

/-! ### Screen -/

structure EventsScreen where
  canvas : Canvas
  table : TableView
  layout : EventsLayout

def drawEvents (canvas : Canvas) (area : Rect) (browser : EventBrowser) (view : TableView)
    (focused : Bool) : EventsScreen :=
  let rows := Layout.rows area [.fixed 3, .atLeast 5, .fixed 1]
  let pageArea := Layout.part rows 2
  let pagination := browser.pagination
  let canvas := drawFilter canvas (Layout.part rows 0) browser focused
  let (canvas, view) := drawEventTable canvas (Layout.part rows 1) browser view
  let canvas := canvas.drawParagraph pageArea [pageLine pagination]
  ⟨canvas, view, ⟨Layout.part rows 1, previousArea pageArea, nextArea pageArea pagination⟩⟩

/-! ### Detail -/

def detailLine (tokens : Highlight.TokenLine) : Line :=
  ⟨tokens.map fun token => ⟨token.text, Style.fg (Theme.tokenColor token.kind)⟩⟩

/-- Draws the detail over the screen and gives its place. -/
def drawDetail (canvas : Canvas) (area : Rect) (detail : EventDetail) : Canvas × Rect :=
  let popup := area.centered 80 80
  let block := Block.titled (detail.title ++ "  [x/Esc close, ↑/↓ scroll]") (Style.fg .cyan)
  let lines := (detail.lines.drop detail.scroll.toNat).map detailLine
  ((canvas.clear popup).drawPanel popup block lines, popup)

end EventConsole.View
