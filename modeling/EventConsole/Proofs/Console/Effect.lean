import EventConsole.Proofs.Console.Begins

/-!
Contract: everything that one step can do to a console.

Owns: the effects of steps, what an answer does to the session, what a message
that is taken in leaves alone, and induction over runs.
-/

namespace EventConsole

/-- The server refuses the credential of a request. -/
def Answer.refuses : Answer → Bool
  | .status code _ => code == 401
  | .none => false

/-- The server accepts a login. -/
def Answer.accepts : Answer → Bool
  | .status code _ => isSuccess code
  | .none => false

def Job.isLogin : Job → Bool
  | .login _ _ => true
  | _ => false

/-! ### Answers -/

theorem Client.conclude_session (session : Session) (answer : Answer) :
    (Client.conclude session answer).2 = if answer.refuses then session.logout else session := by
  cases answer with
  | none => rfl
  | status code body =>
      simp only [Client.conclude, Answer.refuses, beq_iff_eq]
      split
      · rfl
      · split <;> rfl

namespace Console

/-- An answer ends the session, starts one, or leaves it as it is. -/
theorem conclude_session (session : Session) (job : Job) (credential : Credential)
    (answer : Answer) :
    (conclude session job credential answer).2 =
      if job.isLogin then
        if answer.accepts then { session with credential := some credential } else session
      else if answer.refuses then session.logout else session := by
  cases job with
  | login username password =>
      cases answer with
      | none => rfl
      | status code body =>
          cases success : isSuccess code <;>
            simp [conclude, Client.concludeLogin, Answer.accepts, Job.isLogin, success]
  | events fetch => exact Client.conclude_session session answer
  | stats => exact Client.conclude_session session answer

/-- An answer asks for no screen but the login screen. -/
theorem navigator_conclude (session : Session) (job : Job) (credential : Credential)
    (answer : Answer) :
    (conclude session job credential answer).2.navigator = session.navigator ∨
      (conclude session job credential answer).2.navigator = ⟨.login, true⟩ := by
  rw [conclude_session]
  split
  · split
    · exact .inl rfl
    · exact .inl rfl
  · split
    · exact .inr rfl
    · exact .inl rfl

theorem conclude_eq_login_true_iff {session : Session} {job : Job} {credential : Credential}
    {answer : Answer} :
    (conclude session job credential answer).1 = .login true ↔
      job.isLogin = true ∧ answer.accepts = true := by
  cases job with
  | login username password =>
      cases answer with
      | none => simp [conclude, Client.concludeLogin, Answer.accepts, Job.isLogin]
      | status code body =>
          cases success : isSuccess code <;>
            simp [conclude, Client.concludeLogin, Answer.accepts, Job.isLogin, success]
  | events fetch => simp [conclude, Job.isLogin]
  | stats => simp [conclude, Job.isLogin]

theorem failed_ne_login_true (job : Job) (failure : Failure) :
    failed job failure ≠ .login true := by
  cases job <;> simp [failed]

/-! ### Messages -/

/-- What taking in a result never changes. -/
structure SameWork (before after : Console) : Prop where
  credential : after.session.credential = before.session.credential
  route : after.route = before.route
  epoch : after.epoch = before.epoch
  tasks : after.tasks = before.tasks
  inbox : after.inbox = before.inbox

theorem SameWork.refl (console : Console) : SameWork console console := ⟨rfl, rfl, rfl, rfl, rfl⟩

private theorem sameWork_goto (console : Console) (route : Route) :
    SameWork console (console.goto route) := ⟨rfl, rfl, rfl, rfl, rfl⟩

theorem requireAuth_eq (console : Console) :
    console.requireAuth =
      if console.session.isAuthenticated then console else console.goto .login := by
  unfold requireAuth Session.requireAuth goto
  split <;> rfl

private theorem sameWork_requireAuth (console : Console) :
    SameWork console console.requireAuth := by
  rw [requireAuth_eq]
  split
  · exact .refl console
  · exact sameWork_goto console .login

/-- What an outcome asks of the session before it is taken in. -/
def guarded (console : Console) {α : Type} (outcome : Except Failure α) : Console :=
  if isUnauthenticated outcome then console.requireAuth else console

private theorem sameWork_guarded (console : Console) {α : Type} (outcome : Except Failure α) :
    SameWork console (console.guarded outcome) := by
  unfold guarded
  split
  · exact sameWork_requireAuth console
  · exact .refl console

theorem sameWork_takeIn (console : Console) (result : TaskResult) (now : Moment) :
    SameWork console (console.takeIn result now) := by
  cases result with
  | login accepted =>
      cases accepted with
      | true => exact ⟨rfl, rfl, rfl, rfl, rfl⟩
      | false => exact ⟨rfl, rfl, rfl, rfl, rfl⟩
  | events outcome =>
      have ⟨credential, route, epoch, tasks, inbox⟩ := sameWork_guarded console outcome
      exact ⟨credential, route, epoch, tasks, inbox⟩
  | stats outcome =>
      have ⟨credential, route, epoch, tasks, inbox⟩ := sameWork_guarded console outcome
      exact ⟨credential, route, epoch, tasks, inbox⟩

/-! What a result changes of the screens. -/

theorem events_takeIn (console : Console) (result : TaskResult) (now : Moment) :
    (console.takeIn result now).events =
      match result with
      | .events outcome => console.events.finishLoad outcome
      | _ => console.events := by
  cases result with
  | login accepted => cases accepted <;> rfl
  | events outcome =>
      simp only [takeIn]
      split <;> rfl
  | stats outcome =>
      simp only [takeIn]
      split <;> rfl

theorem dashboard_takeIn (console : Console) (result : TaskResult) (now : Moment) :
    (console.takeIn result now).dashboard =
      match result with
      | .stats outcome => console.dashboard.finishRefresh outcome now.instant
      | _ => console.dashboard := by
  cases result with
  | login accepted => cases accepted <;> rfl
  | events outcome =>
      simp only [takeIn]
      split <;> rfl
  | stats outcome =>
      simp only [takeIn]
      split <;> rfl

theorem pending_takeIn (console : Console) (result : TaskResult) (now : Moment) :
    (console.takeIn result now).login.pending =
      match result with
      | .login _ => false
      | _ => console.login.pending := by
  cases result with
  | login accepted => cases accepted <;> rfl
  | events outcome =>
      simp only [takeIn, requireAuth]
      split <;> rfl
  | stats outcome =>
      simp only [takeIn, requireAuth]
      split <;> rfl

/-- A result asks for no screen, for the login screen, or after a login for the dashboard. -/
theorem navigator_takeIn (console : Console) (result : TaskResult) (now : Moment) :
    (console.takeIn result now).session.navigator =
      console.session.navigator.goto .dashboard ∧ result = .login true ∨
    result ≠ .login true ∧
      ((console.takeIn result now).session.navigator = console.session.navigator ∨
        (console.takeIn result now).session.navigator = console.session.navigator.goto .login) := by
  have guard {α : Type} (outcome : Except Failure α) :
      (console.guarded outcome).session.navigator = console.session.navigator ∨
        (console.guarded outcome).session.navigator = console.session.navigator.goto .login := by
    rw [guarded, requireAuth_eq]
    split
    · split
      · exact .inl rfl
      · exact .inr rfl
    · exact .inl rfl
  cases result with
  | login accepted =>
      cases accepted with
      | true => exact .inl ⟨rfl, rfl⟩
      | false => exact .inr ⟨by simp, .inl rfl⟩
  | events outcome => exact .inr ⟨by simp, guard outcome⟩
  | stats outcome => exact .inr ⟨by simp, guard outcome⟩

/-! ### Steps -/

/-- Steps that neither follow a route, send, answer or deliver, nor log out. -/
def isLocal (console : Console) : Step → Bool
  | .key press => !console.logsOut press
  | .mouse _ | .tick | .draw _ _ => true
  | _ => false

/-- Steps that find nothing to do. -/
def isIdle (console : Console) : Step → Bool
  | .followRoute => !console.session.navigator.changed
  | .send index => console.tasks[index]?.isNone
  | .answer index _ => (console.tasks[index]?.bind Task.carried).isNone
  | .deliver index => console.inbox[index]?.isNone
  | _ => false

/-- The console with the route that was asked for marked as taken up. -/
def takeUp (console : Console) : Console :=
  { console with
    session := { console.session with navigator := console.session.navigator.take } }

/-- What one step makes of a console. -/
inductive Effect (console : Console) (now : Moment) : Step → Console → Prop where
  | idle {step} (idle : console.isIdle step = true) : Effect console now step console
  | works {step after} (isLocal : console.isLocal step = true) (works : Works console after) :
      Effect console now step after
  | asks {press route} (stays : console.logsOut press = false)
      (inside : console.route.isProtected = true) (isProtected : route.isProtected = true) :
      Effect console now (.key press) (console.goto route)
  | logsOut {press} (leaves : console.logsOut press = true) :
      Effect console now (.key press) console.logout
  | entersLogin (changed : console.session.navigator.changed = true)
      (toLogin : console.session.navigator.route = .login) :
      Effect console now .followRoute { console.takeUp with route := .login }.reset
  | entersScreen {after} (changed : console.session.navigator.changed = true)
      (inside : console.session.navigator.route.isProtected = true)
      (admitted : console.session.isAuthenticated = true)
      (works : Works { console.takeUp with route := console.session.navigator.route } after) :
      Effect console now .followRoute after
  | turnsAway (changed : console.session.navigator.changed = true)
      (inside : console.session.navigator.route.isProtected = true)
      (refused : console.session.isAuthenticated = false) :
      Effect console now .followRoute (console.takeUp.goto .login)
  | carries {index task credential} (waits : console.tasks[index]? = some task)
      (known : console.credentialFor task.job = some credential) :
      Effect console now (.send index)
        { console with
          tasks := console.tasks.set index { task with carried := some credential } }
  | fails {index task failure} (waits : console.tasks[index]? = some task) :
      Effect console now (.send index) (console.finish index task (failed task.job failure))
  | concludes {index answer task credential} (waits : console.tasks[index]? = some task)
      (sent : task.carried = some credential) :
      Effect console now (.answer index answer)
        ({ console with
            session := (conclude console.session task.job credential answer).2 }.finish index task
          (conclude console.session task.job credential answer).1)
  | drops {index message} (waits : console.inbox[index]? = some message)
      (stale : message.epoch ≠ console.epoch) :
      Effect console now (.deliver index) { console with inbox := console.inbox.eraseIdx index }
  | takes {index message} (waits : console.inbox[index]? = some message)
      (fresh : message.epoch = console.epoch) :
      Effect console now (.deliver index)
        ({ console with inbox := console.inbox.eraseIdx index }.takeIn message.result now)

section Effects

variable (console : Console) (now : Moment)

private theorem effect_key (press : KeyPress) :
    Effect console now (.key press) (console.handleKey press now) := by
  cases leaves : console.logsOut press with
  | true =>
      rw [handleKey_of_logsOut console now leaves]
      exact .logsOut leaves
  | false =>
      rcases handleKey_of_not_logsOut console now leaves with
        works | ⟨inside, route, isProtected, asks⟩
      · exact .works (by rw [isLocal, leaves]; rfl) works
      · rw [asks]
        exact .asks leaves inside isProtected

theorem enterRoute_login :
    console.enterRoute .login now = { console with route := .login }.reset := rfl

theorem enterRoute_turnsAway {route : Route} (inside : route.isProtected = true)
    (refused : console.session.isAuthenticated = false) :
    console.enterRoute route now = console.goto .login := by
  rw [enterRoute, inside, refused, requireAuth_eq, refused]
  rfl

private theorem works_enterRoute {route : Route} (inside : route.isProtected = true)
    (admitted : console.session.isAuthenticated = true) :
    Works { console with route := route } (console.enterRoute route now) := by
  unfold enterRoute
  rw [admitted, Bool.not_true, Bool.and_false, if_neg Bool.false_ne_true]
  cases route with
  | login => contradiction
  | dashboard =>
      dsimp only
      split
      · exact works_refresh _ now
      · exact works_refl _
  | events =>
      dsimp only
      split
      · exact works_refl _
      · have requested : Works { console with route := .events }
            { console with route := .events, eventsRequested := true } :=
          .of_keeps rfl rfl rfl rfl rfl rfl (.refl _) rfl
        exact requested.trans (works_loadEvents _)

theorem followRoute_eq :
    console.followRoute now =
      if console.session.navigator.changed then
        console.takeUp.enterRoute console.session.navigator.route now
      else console := rfl

theorem effect_followRoute : Effect console now .followRoute (console.followRoute now) := by
  rw [followRoute_eq]
  cases changed : console.session.navigator.changed with
  | false => exact .idle (by rw [isIdle, changed]; rfl)
  | true =>
      rw [if_pos rfl]
      cases inside : console.session.navigator.route.isProtected with
      | false =>
          have toLogin := Route.eq_login_of_not_isProtected inside
          rw [toLogin]
          exact .entersLogin changed toLogin
      | true =>
          cases admitted : console.session.isAuthenticated with
          | true =>
              exact .entersScreen changed inside admitted
                (works_enterRoute console.takeUp now inside admitted)
          | false =>
              rw [enterRoute_turnsAway console.takeUp now inside admitted]
              exact .turnsAway changed inside admitted

theorem effect_send (index : Nat) : Effect console now (.send index) (console.send index).2 := by
  unfold send
  split
  case h_1 none =>
    exact .idle (by rw [isIdle, none]; rfl)
  case h_2 task waits =>
    split
    · exact .fails waits
    case h_2 credential known =>
      split
      · exact .fails waits
      · exact .carries waits known

theorem effect_answer (index : Nat) (answer : Answer) :
    Effect console now (.answer index answer) (console.answer index answer) := by
  unfold Console.answer
  split
  case h_1 none => exact .idle (by rw [isIdle, none]; rfl)
  case h_2 task waits =>
    split
    case h_1 unsent => exact .idle (by rw [isIdle, waits, Option.bind_some, unsent]; rfl)
    case h_2 credential sent => exact .concludes waits sent

theorem effect_deliver (index : Nat) :
    Effect console now (.deliver index) (console.deliver index now) := by
  unfold deliver
  split
  case h_1 none => exact .idle (by rw [isIdle, none]; rfl)
  case h_2 message waits =>
    unfold apply
    split
    case isTrue fresh => exact .takes waits fresh
    case isFalse stale => exact .drops waits stale

/-- Every step has one of the effects. -/
theorem effect_step (step : Step) : Effect console now step (console.step now step) := by
  cases step with
  | key press => exact effect_key console now press
  | mouse event => exact .works rfl (works_handleMouse console event)
  | followRoute => exact effect_followRoute console now
  | send index => exact effect_send console now index
  | answer index answer => exact effect_answer console now index answer
  | deliver index => exact effect_deliver console now index
  | tick => exact .works rfl (works_tick console now)
  | draw width height => exact .works rfl (works_drawn console width height)

end Effects

/-- An item replaced by one that looks the same. -/
theorem map_set_of_same {α β : Type} {look : α → β} {items : List α} {index : Nat} {item other : α}
    (isItem : items[index]? = some item) (same : look other = look item) :
    (items.set index other).map look = items.map look := by
  obtain ⟨inItems, rfl⟩ := List.getElem?_eq_some_iff.mp isItem
  have inLooks : index < (items.map look).length := by rwa [List.length_map]
  rw [List.map_set, same, ← List.getElem_map look (h := inLooks), List.set_getElem_self]

/-! ### Runs -/

/-- What every step keeps, a run keeps. -/
theorem run_keeps {holds : Console → Prop}
    (kept : ∀ console now step, holds console → holds (console.step now step))
    {console : Console} (start : holds console) (steps : List (Moment × Step)) :
    holds (console.run steps) := by
  induction steps generalizing console with
  | nil => exact start
  | cons head rest inductionHypothesis =>
      obtain ⟨now, step⟩ := head
      exact inductionHypothesis (kept console now step start)

/-- A console opens on the login screen, on another screen, or asks for the login screen. -/
theorem opened_cases (console : Console) (now : Moment) :
    console.route = .login ∧ console.opened now = console.reset ∨
      console.session.isAuthenticated = true ∧ Works console (console.opened now) ∨
      console.route.isProtected = true ∧ console.opened now = console.goto .login := by
  unfold opened
  cases inside : console.route.isProtected with
  | false =>
      have atLogin := Route.eq_login_of_not_isProtected inside
      have same : { console with route := .login } = console := by rw [← atLogin]
      rw [atLogin, enterRoute_login, same]
      exact .inl ⟨rfl, rfl⟩
  | true =>
      cases admitted : console.session.isAuthenticated with
      | true => exact .inr (.inl ⟨rfl, works_enterRoute console now inside admitted⟩)
      | false => exact .inr (.inr ⟨rfl, enterRoute_turnsAway console now inside admitted⟩)

/-- A console as it opens for a user who is not logged in. -/
def openedAtLogin (client : Client) (username : Option String) (opening : Moment) : Console :=
  (Console.new client (Session.new .login) username).opened opening

/-- Consoles that a run can lead to. -/
def Reachable (console : Console) : Prop :=
  ∃ client session username opening steps,
    console = ((Console.new client session username).opened opening).run steps

theorem reachable_run_openedAtLogin (client : Client) (username : Option String) (opening : Moment)
    (steps : List (Moment × Step)) :
    Reachable ((openedAtLogin client username opening).run steps) :=
  ⟨client, Session.new .login, username, opening, steps, rfl⟩

theorem Reachable.keeps {holds : Console → Prop}
    (opened : ∀ client session username opening,
      holds ((Console.new client session username).opened opening))
    (kept : ∀ console now step, holds console → holds (console.step now step))
    {console : Console} (reachable : Reachable console) : holds console := by
  obtain ⟨client, session, username, opening, steps, rfl⟩ := reachable
  exact run_keeps kept (opened client session username opening) steps

end Console

end EventConsole
