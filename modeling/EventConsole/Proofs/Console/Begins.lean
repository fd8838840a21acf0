import EventConsole.Console.Input
import EventConsole.Console.Run
import EventConsole.Proofs.EventBrowser.Provenance

/-!
Contract: what input, timers and drawing can do to a console.

They begin tasks and change what the screens show of the data at hand. Only two
keys reach further: one asks for another screen, one logs out.

Owns: the frame of such steps, that each task begun is counted by its screen, and
which key logs out.
-/

namespace EventConsole

/-! ### The login form -/

namespace LoginForm

variable (form : LoginForm)

private theorem pending_edit (change : String → String) :
    (form.edit change).pending = form.pending := by
  unfold edit
  split <;> rfl

private theorem pending_handleKey (key : Key) : (form.handleKey key).2.pending = form.pending := by
  unfold handleKey
  split
  · rfl
  split
  case h_5 => split <;> rfl
  case h_6 => exact pending_edit form _
  case h_7 => exact pending_edit { form with error := none } _
  all_goals rfl

/-- A pending form takes no keys, so that it is not submitted again. -/
theorem not_pending_of_submits {key : Key} (submits : (form.handleKey key).1 = true) :
    form.pending = false := by
  rw [← Bool.not_eq_true]
  intro pending
  unfold handleKey at submits
  rw [if_pos pending] at submits
  contradiction

end LoginForm

/-! ### Kinds of tasks -/

/-- What a task is about. -/
inductive JobKind where
  | login
  | events
  | stats
deriving DecidableEq, Repr

def Job.kind : Job → JobKind
  | .login _ _ => .login
  | .events _ => .events
  | .stats => .stats

namespace Console

/-- The tasks of a kind that the screens take to be outstanding. -/
def busy (console : Console) : JobKind → Nat
  | .login => console.login.pending.toNat
  | .events => console.events.loading.toNat
  | .stats => console.dashboard.outstanding

/-- A console differs from an earlier one by tasks that it has begun, and not in
its session, its messages or the data on its screens. -/
structure Begins (before after : Console) (jobs : List Job) : Prop where
  session : after.session = before.session
  route : after.route = before.route
  epoch : after.epoch = before.epoch
  inbox : after.inbox = before.inbox
  tasks : after.tasks = before.tasks ++ jobs.map fun job => ⟨before.epoch, job, none⟩
  busy : ∀ kind, after.busy kind = before.busy kind + (jobs.map Job.kind).count kind
  events : EventBrowser.Keeps before.events after.events
  view : after.dashboard.view = before.dashboard.view

/-- A console has begun some tasks, or none. -/
def Works (before after : Console) : Prop := ∃ jobs, Begins before after jobs

theorem Begins.trans {first second third : Console} {jobs more : List Job}
    (one : Begins first second jobs) (other : Begins second third more) :
    Begins first third (jobs ++ more) where
  session := other.session.trans one.session
  route := other.route.trans one.route
  epoch := other.epoch.trans one.epoch
  inbox := other.inbox.trans one.inbox
  tasks := by rw [other.tasks, one.tasks, one.epoch, List.map_append, List.append_assoc]
  busy := fun kind => by
    rw [other.busy, one.busy, List.map_append, List.count_append, Nat.add_assoc]
  events := one.events.trans other.events
  view := other.view.trans one.view

theorem Begins.map_epoch {before after : Console} {jobs : List Job}
    (begins : Begins before after jobs) :
    after.tasks.map Task.epoch =
      before.tasks.map Task.epoch ++ List.replicate jobs.length before.epoch := by
  simp [begins.tasks, Function.comp_def, List.map_const']

theorem Works.trans {first second third : Console} (one : Works first second)
    (other : Works second third) : Works first third :=
  let ⟨_, begins⟩ := one
  let ⟨_, further⟩ := other
  ⟨_, begins.trans further⟩

/-- A console that differs at most in its forms and its browser, and counts the
same tasks. -/
theorem Works.of_keeps {before after : Console} (session : after.session = before.session)
    (route : after.route = before.route) (epoch : after.epoch = before.epoch)
    (inbox : after.inbox = before.inbox) (tasks : after.tasks = before.tasks)
    (busy : after.busy = before.busy) (events : EventBrowser.Keeps before.events after.events)
    (view : after.dashboard.view = before.dashboard.view) : Works before after :=
  ⟨[], session, route, epoch, inbox, by rw [tasks, List.map_nil, List.append_nil],
    congrFun busy, events, view⟩

variable (console : Console)

theorem works_refl : Works console console :=
  .of_keeps rfl rfl rfl rfl rfl rfl (.refl _) rfl

/-! ### Events -/

/-- An operation on the browser begins the fetch that it asks for. -/
theorem works_perform (operation : EventBrowser.Operation)
    (noOutcome : ∀ outcome, operation ≠ .finish outcome) :
    Works console (console.browse (console.events.perform operation)) := by
  have keeps := EventBrowser.keeps_perform console.events noOutcome
  have loading := EventBrowser.loading_perform console.events noOutcome
  unfold browse
  generalize console.events.perform operation = change at keeps loading
  obtain ⟨asked, browser⟩ := change
  cases asked with
  | none =>
      refine .of_keeps rfl rfl rfl rfl rfl (funext fun kind => ?_) keeps rfl
      cases kind with
      | login | stats => rfl
      | events => exact loading
  | some fetch =>
      refine ⟨[.events fetch], rfl, rfl, rfl, rfl, rfl, fun kind => ?_, keeps, rfl⟩
      cases kind with
      | login | stats => rfl
      | events => exact loading

theorem works_handles {browser : EventBrowser}
    (handles : EventBrowser.Handles console.events browser) :
    Works console { console with events := browser } := by
  rcases handles with rfl | ⟨operation, isLocal, rfl⟩
  · exact works_refl console
  · have works := works_perform console operation
      (EventBrowser.Operation.ne_finish_of_isLocal isLocal)
    rwa [EventBrowser.perform_of_isLocal console.events isLocal] at works

theorem works_loadEvents : Works console console.loadEvents :=
  works_perform console .load fun _ => EventBrowser.Operation.noConfusion

private theorem works_runAction (action : EventsAction) :
    Works console (console.runAction action) := by
  have closed : Works console
      (if console.events.detail.isNone then { console with detailArea := none } else console) := by
    split
    · exact .of_keeps rfl rfl rfl rfl rfl rfl (.refl _) rfl
    · exact works_refl console
  refine closed.trans ?_
  cases action with
  | nothing => exact works_refl _
  | reload => exact works_loadEvents _
  | previousPage =>
      exact works_perform _ .previousPage fun _ => EventBrowser.Operation.noConfusion
  | nextPage =>
      exact works_perform _ .nextPage fun _ => EventBrowser.Operation.noConfusion

private theorem works_eventsKey (key : Key) (now : Moment) :
    Works console (console.eventsKey key now) := by
  have handled := works_handles console
    (EventBrowser.handles_handleKey console.events console.searching key now.elapsed)
  have focused : Works _
      { console with
        events := (console.events.handleKey console.searching key now.elapsed).2.browser
        searching := (console.events.handleKey console.searching key now.elapsed).2.searching } :=
    handled.trans (.of_keeps rfl rfl rfl rfl rfl rfl (.refl _) rfl)
  exact focused.trans (works_runAction _ _)

theorem works_handleMouse (event : MouseEvent) : Works console (console.handleMouse event) := by
  unfold handleMouse
  split
  · exact (works_handles console (EventBrowser.handles_handleMouse _ _ _ _ _)).trans
      (works_runAction _ _)
  · exact works_refl console

/-! ### Dashboard and login -/

theorem works_refresh (now : Moment) : Works console (console.refresh now) := by
  refine ⟨[.stats], rfl, rfl, rfl, rfl, rfl, fun kind => ?_, .refl _, rfl⟩
  cases kind with
  | login | events | stats => rfl

private theorem works_dashboardKey (key : Key) (now : Moment) :
    Works console (console.dashboardKey key now) := by
  unfold dashboardKey
  split
  · exact works_refresh console now
  · exact works_refl console

private theorem works_login {form : LoginForm} (pending : form.pending = console.login.pending) :
    Works console { console with login := form } := by
  refine .of_keeps rfl rfl rfl rfl rfl (funext fun kind => ?_) (.refl _) rfl
  cases kind with
  | login => exact congrArg Bool.toNat pending
  | events | stats => rfl

private theorem works_submitLogin (free : console.login.pending = false) :
    Works console console.submitLogin := by
  refine ⟨[.login console.login.username console.login.password], rfl, rfl, rfl, rfl, rfl,
    fun kind => ?_, .refl _, rfl⟩
  cases kind with
  | login =>
      rw [busy, busy, free]
      rfl
  | events | stats => rfl

private theorem works_loginKey (key : Key) : Works console (console.loginKey key) := by
  have pending := console.login.pending_handleKey key
  unfold loginKey
  simp only
  split
  case isTrue submits =>
    have free := pending.trans (console.login.not_pending_of_submits submits)
    exact (works_login console pending).trans (works_submitLogin _ free)
  case isFalse => exact works_login console pending

/-! ### Timers and drawing -/

theorem works_tick (now : Moment) : Works console (console.tick now) := by
  have searched : Works console (console.tickSearch now).2 :=
    works_handles console (EventBrowser.handles_operate console.events (.tick now.elapsed) rfl)
  unfold tick
  simp only
  split
  · exact searched.trans (works_refresh _ now)
  · exact searched

/-- A drawing leaves the console as it is, remembers the places on the events screen, or
ends the console. -/
theorem drawn_cases (width height : Nat) :
    console.drawn width height = console ∨
      (∃ canvas body, console.drawn width height = (console.drawEvents canvas body).2) ∨
      console.drawn width height = { console with quit := true } := by
  unfold drawn draw?
  dsimp only
  cases console.route with
  | login => exact .inl rfl
  | dashboard =>
      dsimp only
      cases View.drawDashboard? _ _ _ with
      | some canvas => exact .inl rfl
      | none => exact .inr (.inr rfl)
  | events => exact .inr (.inl ⟨_, _, rfl⟩)

theorem works_drawn (width height : Nat) : Works console (console.drawn width height) := by
  obtain drawn | ⟨canvas, body, drawn⟩ | drawn := drawn_cases console width height
  · rw [drawn]
    exact works_refl console
  · rw [drawn]
    exact .of_keeps rfl rfl rfl rfl rfl rfl (.refl _) rfl
  · rw [drawn]
    exact .of_keeps rfl rfl rfl rfl rfl rfl (.refl _) rfl

/-! ### Keys -/

/-- Whether a key logs out. -/
def logsOut (press : KeyPress) : Bool :=
  console.route.isProtected && !console.capturesKeys && press.key == .char 'L'

private theorem isProtected_otherScreen (route : Route) :
    (otherScreen route).isProtected = true := by
  cases route <;> rfl

theorem works_quit : Works console { console with quit := true } :=
  .of_keeps rfl rfl rfl rfl rfl rfl (.refl _) rfl

/-- A key that neither logs out nor asks for the other screen only begins tasks. -/
theorem works_screenKey {key : Key} (now : Moment) (noTab : key ≠ .tab) (noBackTab : key ≠ .backTab)
    (noLogout : key ≠ .char 'L') : Works console (console.screenKey key now) := by
  unfold screenKey
  split
  · exact works_quit console
  · exact works_quit console
  · contradiction
  · contradiction
  · contradiction
  · split
    · exact works_dashboardKey console key now
    · exact works_eventsKey console key now

theorem handleKey_of_logsOut {press : KeyPress} (now : Moment)
    (leaves : console.logsOut press = true) : console.handleKey press now = console.logout := by
  simp only [logsOut, Bool.and_eq_true, Bool.not_eq_true', beq_iff_eq] at leaves
  obtain ⟨⟨inside, free⟩, isLogout⟩ := leaves
  have notLogin : console.route ≠ .login := fun atLogin => by
    rw [atLogin] at inside
    contradiction
  have noInterrupt : ¬(press.control = true ∧ press.key = .char 'c') := fun interrupt => by
    rw [isLogout] at interrupt
    exact absurd interrupt.2 (by decide)
  rw [handleKey, if_neg noInterrupt, if_neg notLogin, free, if_neg Bool.false_ne_true, isLogout]
  rfl

theorem handleKey_of_not_logsOut {press : KeyPress} (now : Moment)
    (stays : console.logsOut press = false) :
    Works console (console.handleKey press now) ∨
      console.route.isProtected = true ∧
        ∃ route : Route, route.isProtected = true ∧
          console.handleKey press now = console.goto route := by
  unfold handleKey
  by_cases interrupt : press.control = true ∧ press.key = .char 'c'
  · rw [if_pos interrupt]
    exact .inl (works_quit console)
  rw [if_neg interrupt]
  by_cases atLogin : console.route = .login
  · rw [if_pos atLogin]
    exact .inl (works_loginKey console press.key)
  rw [if_neg atLogin]
  have inside : console.route.isProtected = true := by
    rw [← Bool.not_eq_false]
    exact fun unprotected => atLogin (Route.eq_login_of_not_isProtected unprotected)
  cases captured : console.capturesKeys with
  | true => exact .inl (works_eventsKey console press.key now)
  | false =>
      have noLogout : press.key ≠ .char 'L' := fun isLogout => by
        simp [logsOut, inside, captured, isLogout] at stays
      by_cases isTab : press.key = .tab ∨ press.key = .backTab
      · refine .inr ⟨inside, otherScreen console.route, isProtected_otherScreen _, ?_⟩
        rcases isTab with isTab | isBackTab
        · rw [isTab]
          rfl
        · rw [isBackTab]
          rfl
      · rw [not_or] at isTab
        exact .inl (works_screenKey console now isTab.1 isTab.2 noLogout)

end Console

end EventConsole
