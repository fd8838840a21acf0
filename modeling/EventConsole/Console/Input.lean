import EventConsole.Console.Basic

/-!
Contract: what keys and the mouse do.

Control and c always ends the console. On the login screen all other keys go to
the form. On the events screen an open detail or a focused search box takes them.
-/

namespace EventConsole.Console

/-- Carries out what the events screen asks for. -/
def runAction (console : Console) (action : EventsAction) : Console :=
  let console :=
    if console.events.detail.isNone then { console with detailArea := none } else console
  match action with
  | .nothing => console
  | .reload => console.loadEvents
  | .previousPage => console.browse console.events.previousPage
  | .nextPage => console.browse console.events.nextPage

def eventsKey (console : Console) (key : Key) (now : Moment) : Console :=
  let (action, after) := console.events.handleKey console.searching key now.elapsed
  { console with events := after.browser, searching := after.searching }.runAction action

def dashboardKey (console : Console) (key : Key) (now : Moment) : Console :=
  match key with
  | .char 'r' => console.refresh now
  | _ => console

def loginKey (console : Console) (key : Key) : Console :=
  let (submitted, form) := console.login.handleKey key
  let console := { console with login := form }
  if submitted then console.submitLogin else console

/-- Whether the events screen takes all keys. -/
def capturesKeys (console : Console) : Bool :=
  console.route == .events && (console.events.detail.isSome || console.searching)

/-- The other one of the two screens behind the login. -/
def otherScreen : Route → Route
  | .dashboard => .events
  | _ => .dashboard

/-- Keys of the two screens behind the login. -/
def screenKey (console : Console) (key : Key) (now : Moment) : Console :=
  match key with
  | .char 'q' | .char 'Q' => { console with quit := true }
  | .tab | .backTab => console.goto (otherScreen console.route)
  | .char 'L' => console.logout
  | _ =>
      if console.route = .dashboard then console.dashboardKey key now
      else console.eventsKey key now

def handleKey (console : Console) (press : KeyPress) (now : Moment) : Console :=
  if press.control ∧ press.key = .char 'c' then { console with quit := true }
  else if console.route = .login then console.loginKey press.key
  else if console.capturesKeys then console.eventsKey press.key now
  else console.screenKey press.key now

def handleMouse (console : Console) (event : MouseEvent) : Console :=
  if console.route = .events then
    let (action, browser) :=
      console.events.handleMouse console.layout console.tableView.offset console.detailArea event
    { console with events := browser }.runAction action
  else console

end EventConsole.Console
