import EventConsole.Console.Run
import EventConsole.Proofs.Client.Headers
import EventConsole.Proofs.Console.Effect
import EventConsole.Proofs.LoginForm

/-!
Contract: what happens to a console does not depend on its secrets.

The veil takes every secret out of a console: of a password it leaves the number
of its characters, and of a credential that there is one. A step of the console
and a step of the veiled console lead to the same under the veil.

Owns: the veil, and that every step respects it.

Does not own: what is sent to the server.
-/

namespace EventConsole

/-! ### The veil -/

/-- Stands for any credential. -/
def Credential.hidden : Credential := Credential.encode "" ""

def Job.veil : Job → Job
  | .login username password => .login username (View.masked password)
  | .events fetch => .events fetch
  | .stats => .stats

def Task.veil (task : Task) : Task :=
  { task with job := task.job.veil, carried := task.carried.map fun _ => Credential.hidden }

def Session.veil (session : Session) : Session :=
  { session with credential := session.credential.map fun _ => Credential.hidden }

theorem Session.veil_veil (session : Session) : session.veil.veil = session.veil := by
  obtain ⟨credential, navigator⟩ := session
  cases credential <;> rfl

theorem Task.veil_veil (task : Task) : task.veil.veil = task.veil := by
  obtain ⟨epoch, job, carried⟩ := task
  cases job <;> cases carried <;> simp [Task.veil, Job.veil, View.masked_masked]

namespace Console

/-- The console without its secrets. -/
def veil (console : Console) : Console :=
  { console with
    session := console.session.veil
    login := console.login.veil
    tasks := console.tasks.map Task.veil }

theorem veil_veil (console : Console) : console.veil.veil = console.veil := by
  have tasks : (console.tasks.map Task.veil).map Task.veil = console.tasks.map Task.veil := by
    rw [List.map_map]
    exact List.map_congr_left fun task _ => Task.veil_veil task
  simp only [veil, Session.veil_veil, LoginForm.veil_veil, tasks]

/-- Work that commutes with the veil leads to the same under it, whether secrets were
taken out before or not. -/
theorem veil_of_commutes {f : Console → Console}
    (commutes : ∀ console, (f console).veil = f console.veil) (console : Console) :
    (f console.veil).veil = (f console).veil := by
  rw [commutes, commutes, veil_veil]

theorem getElem?_tasks_veil (console : Console) (index : Nat) :
    console.veil.tasks[index]? = console.tasks[index]?.map Task.veil :=
  List.getElem?_map

/-! ### Work that knows no secret -/

section Work

variable (console : Console)

private theorem isAuthenticated_veil :
    console.veil.session.isAuthenticated = console.session.isAuthenticated :=
  Option.isSome_map

theorem veil_start (job : Job) : (console.start job).veil = console.veil.start job.veil := by
  simp [start, veil, Task.veil]

theorem veil_browse (change : Option EventBrowser.Fetch × EventBrowser) :
    (console.browse change).veil = console.veil.browse change := by
  obtain ⟨fetch, browser⟩ := change
  cases fetch with
  | none => rfl
  | some fetch => exact veil_start _ _

theorem veil_refresh (now : Moment) : (console.refresh now).veil = console.veil.refresh now :=
  veil_start _ _

private theorem veil_submitLogin : console.submitLogin.veil = console.veil.submitLogin :=
  veil_start _ _

private theorem veil_requireAuth : console.requireAuth.veil = console.veil.requireAuth := by
  rw [requireAuth_eq, requireAuth_eq, isAuthenticated_veil]
  split <;> rfl

private theorem veil_runAction (action : EventsAction) :
    (console.runAction action).veil = console.veil.runAction action := by
  have cleared :
      (if console.events.detail.isNone then { console with detailArea := none }
        else console).veil =
      if console.veil.events.detail.isNone then { console.veil with detailArea := none }
        else console.veil := by
    rw [apply_ite veil]
    rfl
  unfold runAction
  rw [← cleared]
  cases action with
  | nothing => rfl
  | reload => exact veil_browse _ _
  | previousPage => exact veil_browse _ _
  | nextPage => exact veil_browse _ _

private theorem veil_eventsKey (key : Key) (now : Moment) :
    (console.eventsKey key now).veil = console.veil.eventsKey key now :=
  veil_runAction _ _

private theorem veil_dashboardKey (key : Key) (now : Moment) :
    (console.dashboardKey key now).veil = console.veil.dashboardKey key now := by
  unfold dashboardKey
  split
  · exact veil_refresh console now
  · rfl

private theorem veil_screenKey (key : Key) (now : Moment) :
    (console.screenKey key now).veil = console.veil.screenKey key now := by
  unfold screenKey
  split
  case h_6 =>
    rw [apply_ite veil, veil_dashboardKey, veil_eventsKey]
    rfl
  all_goals rfl

private theorem veil_handleMouse (event : MouseEvent) :
    (console.handleMouse event).veil = console.veil.handleMouse event := by
  unfold handleMouse
  rw [apply_ite veil, veil_runAction]
  rfl

private theorem veil_tick (now : Moment) : (console.tick now).veil = console.veil.tick now := by
  unfold tick
  dsimp only
  rw [apply_ite veil, veil_refresh]
  rfl

private theorem veil_drawn (width height : Nat) :
    (console.drawn width height).veil = console.veil.drawn width height := by
  have route : console.veil.route = console.route := rfl
  have header : console.veil.header = console.header := rfl
  have dashboard : console.veil.dashboard = console.dashboard := rfl
  unfold drawn draw?
  simp only [route, header, dashboard]
  cases console.route with
  | login => rfl
  | dashboard =>
      -- Both draw the same dashboard, and so either both fail or none.
      dsimp only
      cases View.drawDashboard? _ _ _ <;> rfl
  | events => rfl

end Work

/-! ### Screens and results -/

section Results

variable (console : Console)

private theorem veil_enterRoute (route : Route) (now : Moment) :
    (console.enterRoute route now).veil = console.veil.enterRoute route now := by
  unfold enterRoute
  rw [isAuthenticated_veil, apply_ite veil, veil_requireAuth]
  congr 1
  cases route with
  | login => rfl
  | dashboard =>
      dsimp only
      rw [apply_ite veil, veil_refresh]
      rfl
  | events =>
      dsimp only
      rw [apply_ite veil]
      congr 1
      exact veil_browse _ _

private theorem veil_followRoute (now : Moment) :
    (console.followRoute now).veil = console.veil.followRoute now := by
  rw [followRoute_eq, followRoute_eq, apply_ite veil, veil_enterRoute]
  rfl

private theorem veil_finish (index : Nat) (task : Task) (result : TaskResult) :
    (console.finish index task result).veil = console.veil.finish index task.veil result := by
  simp [finish, veil, List.eraseIdx_map, Task.veil]

/-- An answer brings the same whatever credential it answers to. -/
theorem conclude_veil (session : Session) (job : Job) (credential : Credential) (answer : Answer) :
    conclude session.veil job.veil Credential.hidden answer =
      ((conclude session job credential answer).1,
        (conclude session job credential answer).2.veil) := by
  have call : Client.conclude session.veil answer =
      ((Client.conclude session answer).1, (Client.conclude session answer).2.veil) := by
    cases answer with
    | none => rfl
    | status code body =>
        unfold Client.conclude
        dsimp only
        split
        · rfl
        · split <;> rfl
  cases job with
  | login username password =>
      cases answer with
      | none => rfl
      | status code body =>
          simp only [conclude, Job.veil, Client.concludeLogin]
          cases isSuccess code <;> rfl
  | events fetch =>
      simp only [conclude, Job.veil, call]
  | stats =>
      simp only [conclude, Job.veil, call]

private theorem veil_answer (index : Nat) (answer : Answer) :
    (console.answer index answer).veil = console.veil.answer index answer := by
  unfold Console.answer
  rw [getElem?_tasks_veil]
  cases console.tasks[index]? with
  | none => rfl
  | some task =>
      obtain ⟨epoch, job, carried⟩ := task
      cases carried with
      | none => rfl
      | some credential =>
          have concluded := conclude_veil console.session job credential answer
          have session : console.veil.session = console.session.veil := rfl
          simp only [Option.map_some, Task.veil, session, concluded, veil_finish]
          rfl

private theorem veil_guarded {α : Type} (outcome : Except Failure α) :
    (console.guarded outcome).veil = console.veil.guarded outcome := by
  unfold guarded
  rw [apply_ite veil, veil_requireAuth]

private theorem veil_takeIn (result : TaskResult) (now : Moment) :
    (console.takeIn result now).veil = console.veil.takeIn result now := by
  cases result with
  | login accepted => cases accepted <;> rfl
  | events outcome =>
      change veil { console.guarded outcome with
          events := (console.guarded outcome).events.finishLoad outcome } =
        { console.veil.guarded outcome with
          events := (console.veil.guarded outcome).events.finishLoad outcome }
      rw [← veil_guarded]
      rfl
  | stats outcome =>
      change veil { console.guarded outcome with
          dashboard := (console.guarded outcome).dashboard.finishRefresh outcome now.instant } =
        { console.veil.guarded outcome with
          dashboard := (console.veil.guarded outcome).dashboard.finishRefresh outcome now.instant }
      rw [← veil_guarded]
      rfl

private theorem veil_deliver (index : Nat) (now : Moment) :
    (console.deliver index now).veil = console.veil.deliver index now := by
  have inbox : console.veil.inbox = console.inbox := rfl
  unfold deliver
  rw [inbox]
  cases console.inbox[index]? with
  | none => rfl
  | some message =>
      dsimp only
      unfold apply
      rw [apply_ite veil, veil_takeIn]
      rfl

end Results

/-! ### Where secrets are used -/

section Secrets

variable (console : Console)

private theorem veil_loginKey (key : Key) :
    (console.veil.loginKey key).veil = (console.loginKey key).veil := by
  obtain ⟨submits, form⟩ := console.login.handleKey_veil key
  have login : console.veil.login = console.login.veil := rfl
  have same : veil { console.veil with login := (console.login.veil.handleKey key).2 } =
      veil { console with login := (console.login.handleKey key).2 } :=
    calc veil { console.veil with login := (console.login.veil.handleKey key).2 }
        = { console.veil.veil with login := (console.login.veil.handleKey key).2.veil } := rfl
      _ = { console.veil with login := (console.login.handleKey key).2.veil } := by
          rw [veil_veil, form]
      _ = veil { console with login := (console.login.handleKey key).2 } := rfl
  unfold loginKey
  dsimp only
  rw [login, submits, apply_ite veil, apply_ite veil, veil_submitLogin, veil_submitLogin, same]

/-- Every job that has a credential has a request. -/
theorem exists_request (job : Job) (credential : Credential) :
    ∃ request, console.requestOf job credential = .ok request := by
  have prepared (endpoint : String) : ∃ request,
      console.client.prepare (some credential) endpoint CallOptions.default = .ok request := by
    have headers : Headers.merge credential CallOptions.default.headers = _ :=
      Headers.merge_nil credential
    simp only [Client.prepare, headers]
    exact ⟨_, rfl⟩
  cases job with
  | login username password => exact ⟨_, rfl⟩
  | events fetch => exact prepared _
  | stats => exact prepared _

/-- Under the veil it is seen of a request that there is one. -/
theorem veil_send_of_waits {index : Nat} {task : Task}
    (waits : console.tasks[index]? = some task) :
    (console.send index).2.veil =
      if (console.credentialFor task.job).isSome then
        { console.veil with
          tasks := console.veil.tasks.set index { task.veil with carried := some .hidden } }
      else console.veil.finish index task.veil (failed task.job .unauthenticated) := by
  unfold send
  rw [waits]
  dsimp only
  cases console.credentialFor task.job with
  | none => exact veil_finish console index task _
  | some credential =>
      obtain ⟨request, isRequest⟩ := console.exists_request task.job credential
      simp only [isRequest, Option.isSome_some, if_true, veil, List.map_set]
      rfl

private theorem isSome_credentialFor_veil (job : Job) :
    (console.veil.credentialFor job.veil).isSome = (console.credentialFor job).isSome := by
  cases job with
  | login username password => rfl
  | events fetch => exact Option.isSome_map
  | stats => exact Option.isSome_map

private theorem failed_veil (job : Job) (failure : Failure) :
    failed job.veil failure = failed job failure := by
  cases job <;> rfl

private theorem veil_send (index : Nat) :
    (console.veil.send index).2.veil = (console.send index).2.veil := by
  cases waits : console.tasks[index]? with
  | none =>
      have waitsVeiled : console.veil.tasks[index]? = none := by
        rw [getElem?_tasks_veil, waits, Option.map_none]
      rw [send, waitsVeiled, send, waits]
      exact veil_veil console
  | some task =>
      have waitsVeiled : console.veil.tasks[index]? = some task.veil := by
        rw [getElem?_tasks_veil, waits, Option.map_some]
      have job : task.veil.job = task.job.veil := rfl
      rw [veil_send_of_waits _ waitsVeiled, veil_send_of_waits _ waits, veil_veil, Task.veil_veil,
        job, isSome_credentialFor_veil, failed_veil]

private theorem veil_handleKey (press : KeyPress) (now : Moment) :
    (console.veil.handleKey press now).veil = (console.handleKey press now).veil := by
  unfold handleKey
  have route : console.veil.route = console.route := rfl
  have captures : console.veil.capturesKeys = console.capturesKeys := rfl
  rw [route, captures]
  split_ifs
  · exact congrArg (fun console : Console => { console with quit := true }) (veil_veil console)
  · exact veil_loginKey console press.key
  · exact veil_of_commutes (veil_eventsKey · press.key now) console
  · exact veil_of_commutes (veil_screenKey · press.key now) console

end Secrets

/-! ### Steps -/

/-- A step leads to the same under the veil, from a console and from what is under
its veil. -/
theorem veil_step (console : Console) (now : Moment) (step : Step) :
    (console.veil.step now step).veil = (console.step now step).veil := by
  cases step with
  | key press => exact veil_handleKey console press now
  | mouse event => exact veil_of_commutes (veil_handleMouse · event) console
  | followRoute => exact veil_of_commutes (veil_followRoute · now) console
  | send task => exact veil_send console task
  | answer task answer => exact veil_of_commutes (veil_answer · task answer) console
  | deliver message => exact veil_of_commutes (veil_deliver · message now) console
  | tick => exact veil_of_commutes (veil_tick · now) console
  | draw width height => exact veil_of_commutes (veil_drawn · width height) console

end Console

end EventConsole
