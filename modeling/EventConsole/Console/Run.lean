import EventConsole.Console.Input
import EventConsole.Console.Screen
import EventConsole.Console.Tasks

/-!
Contract: everything that can happen to a console, one thing at a time.

A run is any sequence of steps, so that what holds for all runs holds for every
order of keys, answers and results. A turn is the order in which the console
itself goes on between two drawings.
-/

namespace EventConsole.Console

/-! ### Routes -/

/-- Goes to a screen. A protected one without a credential asks for the login
screen instead and changes nothing else. -/
def enterRoute (console : Console) (route : Route) (now : Moment) : Console :=
  if route.isProtected && !console.session.isAuthenticated then console.requireAuth
  else
    let console := { console with route := route }
    match route with
    | .login => console.reset
    | .dashboard =>
        if console.dashboard.view.lastRefresh.isNone && !console.dashboard.isRefreshing then
          console.refresh now
        else console
    | .events =>
        if console.eventsRequested then console
        else { console with eventsRequested := true }.loadEvents

/-- Takes up a route that was asked for since the last time. -/
def followRoute (console : Console) (now : Moment) : Console :=
  let navigator := console.session.navigator
  if navigator.changed then
    { console with session := { console.session with navigator := navigator.take } }.enterRoute
      navigator.route now
  else console

/-! ### Timers -/

/-- Applies an edited search text once its quiet time is over; says whether it did. -/
def tickSearch (console : Console) (now : Moment) : Bool × Console :=
  let (fired, browser) := console.events.tick now.elapsed
  (fired, { console with events := browser })

def tick (console : Console) (now : Moment) : Console :=
  let console := (console.tickSearch now).2
  if console.route = .dashboard ∧ console.dashboard.isDue now.elapsed then console.refresh now
  else console

/-! ### Steps -/

inductive Step where
  | key (press : KeyPress)
  | mouse (event : MouseEvent)
  | followRoute
  | send (task : Nat)
  | answer (task : Nat) (answer : Answer)
  | deliver (message : Nat)
  | tick
  | draw (width height : Nat)

def step (console : Console) (now : Moment) : Step → Console
  | .key press => console.handleKey press now
  | .mouse event => console.handleMouse event
  | .followRoute => console.followRoute now
  | .send task => (console.send task).2
  | .answer task answer => console.answer task answer
  | .deliver message => console.deliver message now
  | .tick => console.tick now
  | .draw width height => console.drawn width height

/-- Steps one after another, each with its time. -/
def run (console : Console) : List (Moment × Step) → Console
  | [] => console
  | (now, step) :: rest => (console.step now step).run rest

/-- The console as it opens: on its first screen. -/
def opened (console : Console) (now : Moment) : Console := console.enterRoute console.route now

/-! ### Turns -/

inductive UserInput where
  | key (press : KeyPress)
  | mouse (event : MouseEvent)
deriving DecidableEq, Repr

def takeInput (console : Console) (now : Moment) : UserInput → Console
  | .key press => console.handleKey press now
  | .mouse event => console.handleMouse event

/-- Takes in all results that wait, in order. -/
def deliverAll (console : Console) (now : Moment) : Console :=
  console.inbox.foldl (fun console message => console.apply message now)
    { console with inbox := [] }

/-- One turn: a changed route, the input, unless it ends the console the results
that wait, and the timers. -/
def turn (console : Console) (now : Moment) (inputs : List UserInput) : Console :=
  let console := inputs.foldl (fun console input => console.takeInput now input)
    (console.followRoute now)
  if console.quit then console else (console.deliverAll now).tick now

end EventConsole.Console
