import EventConsole.Console.Basic
import EventConsole.View.Dashboard
import EventConsole.View.Events
import EventConsole.View.Login
import EventConsole.View.Panel

/-!
Contract: the whole screen of the console.

The login screen has it for itself. The others stand below the header. The
places of the events screen are remembered for the mouse. A drawing that fails ends
the console.
-/

namespace EventConsole.Console

open Screen

def isBusy (console : Console) : Bool := console.dashboard.isRefreshing || console.events.loading

def header (console : Console) : View.Header :=
  ⟨console.client.baseUrl, console.route, console.dashboard.view.lastRefresh, console.isBusy⟩

/-- Draws the events screen with an open detail over the whole screen. -/
def drawEvents (console : Console) (canvas : Canvas) (body : Rect) : Canvas × Console :=
  let screen := View.drawEvents canvas body console.events console.tableView console.searching
  let (canvas, detailArea) :=
    match console.events.detail with
    | none => (screen.canvas, none)
    | some detail =>
        let (canvas, popup) := View.drawDetail screen.canvas canvas.area detail
        (canvas, some popup)
  (canvas,
    { console with
      tableView := screen.table
      layout := screen.layout
      detailArea := detailArea })

/-- Draws the console on a blank screen, unless a chart of its dashboard cannot be
drawn. -/
def draw? (console : Console) (width height : Nat) : Option (Canvas × Console) :=
  let canvas := Canvas.blank width height
  let rows := Layout.rows canvas.area [.fixed 2, .atLeast 5]
  let body := Layout.part rows 1
  match console.route with
  | .login => some (View.drawLogin canvas canvas.area console.login console.client.baseUrl, console)
  | .dashboard =>
      let canvas := console.header.draw canvas (Layout.part rows 0)
      (View.drawDashboard? canvas body console.dashboard.view).map fun canvas => (canvas, console)
  | .events => some (console.drawEvents (console.header.draw canvas (Layout.part rows 0)) body)

/-- The console after a drawing. -/
def drawn (console : Console) (width height : Nat) : Console :=
  match console.draw? width height with
  | some (_, console) => console
  | none => { console with quit := true }

end EventConsole.Console
