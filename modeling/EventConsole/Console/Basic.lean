import EventConsole.Client.Session
import EventConsole.Dashboard.Refresh
import EventConsole.EventBrowser.Input
import EventConsole.LoginForm
import EventConsole.Screen.Table

/-!
Contract: the state of the console and of the work it has started.

A task is started under the epoch of the console and waits until it is sent. A
request takes the credential of the session at that moment. Its result comes
back as a message that carries the epoch of its task.

Owns: the state, its start, tasks and messages, and what the login screen resets.

Does not own: what keys, answers and messages do.
-/

namespace EventConsole

/-- What the clocks say: milliseconds since some start, and the time of day. -/
structure Moment where
  elapsed : Int
  instant : Time.Instant
deriving DecidableEq, Repr

/-- Work that goes on beside the console. -/
inductive Job where
  | login (username password : String)
  | events (fetch : EventBrowser.Fetch)
  | stats
deriving DecidableEq, Repr

structure Task where
  epoch : Nat
  job : Job
  /-- The credential that its request carries, once it is sent. -/
  carried : Option Credential
deriving DecidableEq, Repr

/-- What a task brings back. -/
inductive TaskResult where
  | login (accepted : Bool)
  | events (outcome : Except Failure EventsPage)
  | stats (outcome : Except Failure StatsSnapshot)

structure Message where
  epoch : Nat
  result : TaskResult

structure Console where
  client : Client
  session : Session
  /-- The screen shown. -/
  route : Route
  login : LoginForm
  events : EventBrowser
  /-- Events were fetched since the last login screen. -/
  eventsRequested : Bool
  searching : Bool
  tableView : Screen.TableView
  layout : EventsLayout
  detailArea : Option Screen.Rect
  dashboard : Dashboard
  /-- Number of times the login screen was entered. -/
  epoch : Nat
  /-- Tasks without a result yet. -/
  tasks : List Task
  /-- Results not yet taken in. -/
  inbox : List Message
  quit : Bool

namespace Console

/-- A console on the wanted route of a session, which holds the user name if one
is known. -/
def new (client : Client) (session : Session) (username : Option String) : Console where
  client := client
  session := { session with navigator := session.navigator.take }
  route := session.navigator.route
  login := LoginForm.new username
  events := EventBrowser.new
  eventsRequested := false
  searching := false
  tableView := Screen.TableView.initial
  layout := EventsLayout.none
  detailArea := none
  dashboard := Dashboard.new
  epoch := 0
  tasks := []
  inbox := []
  quit := false

/-- Forgets everything that belonged to a visit. -/
def reset (console : Console) : Console :=
  { console with
    epoch := console.epoch + 1
    login := console.login.reset
    events := EventBrowser.new
    eventsRequested := false
    searching := false
    tableView := Screen.TableView.initial
    detailArea := none
    dashboard := Dashboard.new }

/-! ### Starting work -/

def start (console : Console) (job : Job) : Console :=
  { console with tasks := console.tasks ++ [⟨console.epoch, job, none⟩] }

/-- Takes a changed state of browsing and starts the fetch that it asks for. -/
def browse (console : Console) (change : Option EventBrowser.Fetch × EventBrowser) : Console :=
  let console := { console with events := change.2 }
  match change.1 with
  | some fetch => console.start (.events fetch)
  | none => console

def loadEvents (console : Console) : Console := console.browse console.events.load

def refresh (console : Console) (now : Moment) : Console :=
  { console with dashboard := console.dashboard.startRefresh now.elapsed }.start .stats

/-- Tries the user name and password of the form. -/
def submitLogin (console : Console) : Console :=
  let form := console.login
  { console with login := { form with pending := true, error := none } }.start
    (.login form.username form.password)

/-! ### Session -/

def logout (console : Console) : Console := { console with session := console.session.logout }

def goto (console : Console) (route : Route) : Console :=
  { console with session := console.session.goto route }

/-- Asks for the login screen if there is no credential. -/
def requireAuth (console : Console) : Console :=
  { console with session := console.session.requireAuth.2 }

end Console

end EventConsole
