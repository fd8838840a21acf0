import EventConsole.Dashboard.View
import EventConsole.Screen.Table
import EventConsole.View.Chart

/-!
Contract: the dashboard screen.

List panels stand in the top third, with four charts below them.
-/

namespace EventConsole.View

open Screen

/-- Draws a list panel: its placeholder, or its rows by `draw`. -/
def drawList {α : Type} (canvas : Canvas) (area : Rect) (title : String) (content : Panel α)
    (draw : List α → Canvas) : Canvas :=
  match content with
  | .placeholder text => canvas.drawPanel area (panel title) [Line.ofSpan (mutedSpan text)]
  | .items rows => draw rows

/-- Text cut in the middle and filled up to a width. -/
def fitted (text : String) (width : Nat) : List Char :=
  Text.padRight width (Text.truncateMiddle text.toList width)

def agentLine (width : Nat) (row : AgentRow) : Line :=
  let dot :=
    if row.online then Span.styled "● " (Style.fg Theme.success)
    else Span.styled "○ " (Style.fg Theme.muted)
  ⟨[dot, ⟨fitted row.id width, Style.plain⟩, mutedSpan (" " ++ row.seenAgo)]⟩

def drawAgents (canvas : Canvas) (area : Rect) (agents : Panel AgentRow) : Canvas :=
  let title := "Active agents"
  drawList canvas area title agents fun rows =>
    canvas.drawPanel area (panel title) (rows.map (agentLine (area.width - 16)))

def loginCells (row : LoginRow) : List TableCell :=
  let status :=
    if row.success then TableCell.ofText "Success" (Style.fg Theme.success)
    else TableCell.ofText "Failure" (Style.fg Theme.danger)
  [TableCell.ofText row.timestamp (Style.fg Theme.muted), TableCell.ofText row.user Style.plain,
    status, TableCell.ofText row.ip Style.plain]

/-- Unstyled cells of a heading. -/
def headingCells (titles : List String) : List TableCell :=
  titles.map fun title => TableCell.ofText title Style.plain

def drawLogins (canvas : Canvas) (area : Rect) (logins : Panel LoginRow) : Canvas :=
  let title := "Last logins"
  drawList canvas area title logins fun rows =>
    (canvas.drawTable area
      { header := headingCells ["Time", "User", "Status", "IP"]
        headerStyle := headingStyle
        rows := rows.map loginCells
        sizes := [.fixed 12, .share 30, .fixed 8, .atLeast 15]
        block := panel title
        mark := ""
        markStyle := Style.plain }
      TableView.initial).1

def hostLine (row : HostRow) : Line :=
  ⟨[Span.plain row.name, Span.styled " ●" (Style.fg Theme.success)]⟩

def drawHosts (canvas : Canvas) (area : Rect) (hosts : Panel HostRow) : Canvas :=
  let title := "Hosts"
  drawList canvas area title hosts fun rows =>
    canvas.drawPanel area (panel title) (rows.map hostLine)

def userLine (width : Nat) (row : UserRow) : Line :=
  ⟨[⟨fitted row.name width, Style.plain⟩,
    ⟨Text.padLeft 6 (Nat.toDigits 10 row.count.toNat), Style.fg Theme.info⟩]⟩

def drawUsers (canvas : Canvas) (area : Rect) (users : Panel UserRow) : Canvas :=
  let title := "Top users"
  drawList canvas area title users fun rows =>
    canvas.drawPanel area (panel title) (rows.map (userLine (area.width - 10)))

/-- Draws the dashboard, unless one of its charts cannot be drawn. -/
def drawDashboard? (canvas : Canvas) (area : Rect) (view : DashboardView) : Option Canvas := do
  let rows := Layout.rows area [.share 34, .share 33, .share 33]
  let top := Layout.columns (Layout.part rows 0) [.share 30, .share 45, .share 25]
  let right := Layout.rows (Layout.part top 2) [.share 50, .share 50]
  let middle := Layout.columns (Layout.part rows 1) [.share 55, .share 45]
  let bottom := Layout.columns (Layout.part rows 2) [.share 40, .share 60]
  let canvas := drawAgents canvas (Layout.part top 0) view.agents
  let canvas := drawLogins canvas (Layout.part top 1) view.logins
  let canvas := drawHosts canvas (Layout.part right 0) view.hosts
  let canvas := drawUsers canvas (Layout.part right 1) view.users
  let canvas ← drawSlot? canvas (Layout.part middle 0) "Events by type" view.eventsByType
  let canvas ← drawSlot? canvas (Layout.part middle 1) "Severity" view.severity
  let canvas ← drawSlot? canvas (Layout.part bottom 0) "Top processes" view.processes
  drawSlot? canvas (Layout.part bottom 1) "Activity (24h)" view.timeline

end EventConsole.View
