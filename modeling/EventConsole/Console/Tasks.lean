import EventConsole.Console.Basic

/-!
Contract: sending tasks, their answers, and taking in results.

A task without the credential it needs fails when it is sent. An answer may
change the session at once; what it brought is taken in later, and only if no
login screen came between.
-/

namespace EventConsole.Console

/-! ### Requests -/

/-- The credential that a task would carry now. -/
def credentialFor (console : Console) : Job → Option Credential
  | .login username password => some (Credential.encode username password)
  | _ => console.session.credential

def endpoint : Job → String
  | .login _ _ => Client.healthEndpoint
  | .events fetch => Client.eventsEndpoint fetch.page.toNat fetch.limit.toNat
  | .stats => Client.statsEndpoint

/-- The request of a job with a credential. -/
def requestOf (console : Console) (job : Job) (credential : Credential) : Except Failure Request :=
  match job with
  | .login _ _ => .ok (console.client.loginRequest credential)
  | job => console.client.prepare (some credential) (endpoint job) CallOptions.default

/-- The result of a job that failed. -/
def failed (job : Job) (failure : Failure) : TaskResult :=
  match job with
  | .login _ _ => .login false
  | .events _ => .events (.error failure)
  | .stats => .stats (.error failure)

/-- Ends a task with a result. -/
def finish (console : Console) (index : Nat) (task : Task) (result : TaskResult) : Console :=
  { console with
    tasks := console.tasks.eraseIdx index
    inbox := console.inbox ++ [⟨task.epoch, result⟩] }

/-- Sends the request of a task; gives the request if there is one. -/
def send (console : Console) (index : Nat) : Option Request × Console :=
  match console.tasks[index]? with
  | none => (none, console)
  | some task =>
      match console.credentialFor task.job with
      | none => (none, console.finish index task (failed task.job .unauthenticated))
      | some credential =>
          match console.requestOf task.job credential with
          | .error failure => (none, console.finish index task (failed task.job failure))
          | .ok request =>
              (some request,
                { console with
                  tasks := console.tasks.set index { task with carried := some credential } })

/-! ### Answers -/

/-- The result of a job from an answer, and the session after it. -/
def conclude (session : Session) (job : Job) (credential : Credential) (answer : Answer) :
    TaskResult × Session :=
  match job with
  | .login _ _ =>
      match Client.concludeLogin session credential answer with
      | (.ok accepted, session) => (.login accepted, session)
      | (.error _, session) => (.login false, session)
  | .events _ =>
      let (outcome, session) := Client.conclude session answer
      (.events (Client.typed EventsPage.ofJson? outcome), session)
  | .stats =>
      let (outcome, session) := Client.conclude session answer
      (.stats (Client.typed StatsSnapshot.ofJson? outcome), session)

/-- Takes the answer to the request of a task that was sent. -/
def answer (console : Console) (index : Nat) (answer : Answer) : Console :=
  match console.tasks[index]? with
  | none => console
  | some task =>
      match task.carried with
      | none => console
      | some credential =>
          let (result, session) := conclude console.session task.job credential answer
          { console with session := session }.finish index task result

/-! ### Results -/

def isUnauthenticated {α : Type} : Except Failure α → Bool
  | .error .unauthenticated => true
  | _ => false

/-- Takes in a result of the present epoch. -/
def takeIn (console : Console) (result : TaskResult) (now : Moment) : Console :=
  match result with
  | .login true => { console with login := console.login.reset }.goto .dashboard
  | .login false =>
      { console with
        login :=
          { console.login with
            pending := false
            password := ""
            error := some "Invalid username or password" } }
  | .events outcome =>
      let console := if isUnauthenticated outcome then console.requireAuth else console
      { console with events := console.events.finishLoad outcome }
  | .stats outcome =>
      let console := if isUnauthenticated outcome then console.requireAuth else console
      { console with dashboard := console.dashboard.finishRefresh outcome now.instant }

/-- Takes in a result unless it belongs to an earlier epoch. -/
def apply (console : Console) (message : Message) (now : Moment) : Console :=
  if message.epoch = console.epoch then console.takeIn message.result now else console

/-- Takes one message from the inbox. -/
def deliver (console : Console) (index : Nat) (now : Moment) : Console :=
  match console.inbox[index]? with
  | none => console
  | some message => { console with inbox := console.inbox.eraseIdx index }.apply message now

end EventConsole.Console
