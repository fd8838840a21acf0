import EventConsole.Proofs.Console.Trace

/-!
Contract: nothing that was fetched before the last login screen is shown after it.

Owns: what the screens show in terms of the results delivered, and that results
of earlier visits are dropped whenever they come.
-/

namespace EventConsole

/-- A view that was drawn from some snapshots and from failures alone. -/
inductive DrawnFrom (snapshots : StatsSnapshot → Prop) : DashboardView → Prop where
  | initial : DrawnFrom snapshots DashboardView.initial
  | failed {view} (drawn : DrawnFrom snapshots view) : DrawnFrom snapshots view.showFailure
  | rendered {view stats now} (drawn : DrawnFrom snapshots view) (known : snapshots stats) :
      DrawnFrom snapshots { view.render stats now with lastRefresh := some now }

theorem DrawnFrom.mono {snapshots more : StatsSnapshot → Prop} {view : DashboardView}
    (wider : ∀ stats, snapshots stats → more stats) (drawn : DrawnFrom snapshots view) :
    DrawnFrom more view := by
  induction drawn with
  | initial => exact .initial
  | failed _ inductionHypothesis => exact .failed inductionHypothesis
  | rendered _ known inductionHypothesis => exact .rendered inductionHypothesis (wider _ known)

theorem DrawnFrom.finishRefresh {snapshots : StatsSnapshot → Prop} {dashboard : Dashboard}
    {outcome : Except Failure StatsSnapshot} (drawn : DrawnFrom snapshots dashboard.view)
    (known : ∀ stats, outcome = .ok stats → snapshots stats) (now : Time.Instant) :
    DrawnFrom snapshots (dashboard.finishRefresh outcome now).view := by
  cases outcome with
  | error failure => exact .failed drawn
  | ok stats => exact .rendered drawn (known stats rfl)

namespace Trace

/-- Pages delivered whose fetch was started after the last entry of the login screen. -/
def freshPage (trace : Trace) (page : EventsPage) : Prop :=
  ∃ start, (start, TaskResult.events (.ok page)) ∈ trace.delivered ∧ trace.entered ≤ start

/-- Snapshots delivered whose fetch was started after the last entry of the login screen. -/
def freshStats (trace : Trace) (stats : StatsSnapshot) : Prop :=
  ∃ start, (start, TaskResult.stats (.ok stats)) ∈ trace.delivered ∧ trace.entered ≤ start

/-- All data on the screens come from such pages and snapshots. -/
structure ShowsFresh (trace : Trace) : Prop where
  events : EventBrowser.Shows trace.freshPage trace.console.events
  dashboard : DrawnFrom trace.freshStats trace.console.dashboard.view

section Steps

variable {trace : Trace} {step : Console.Step} {after : Console}

theorem freshPage_record (noEntry : trace.console.entersLogin step = false) (page : EventsPage)
    (fresh : trace.freshPage page) : (trace.record step after).freshPage page := by
  obtain ⟨start, isDelivered, afterEntry⟩ := fresh
  refine ⟨start, List.mem_append_left _ isDelivered, ?_⟩
  simpa only [record, noEntry, Bool.false_eq_true, if_false] using afterEntry

theorem freshStats_record (noEntry : trace.console.entersLogin step = false) (stats : StatsSnapshot)
    (fresh : trace.freshStats stats) : (trace.record step after).freshStats stats := by
  obtain ⟨start, isDelivered, afterEntry⟩ := fresh
  refine ⟨start, List.mem_append_left _ isDelivered, ?_⟩
  simpa only [record, noEntry, Bool.false_eq_true, if_false] using afterEntry

theorem ShowsFresh.kept (shows : ShowsFresh trace)
    (noEntry : trace.console.entersLogin step = false)
    (events : EventBrowser.Keeps trace.console.events after.events)
    (view : after.dashboard.view = trace.console.dashboard.view) :
    ShowsFresh (trace.record step after) where
  events := (shows.events.mono (freshPage_record noEntry)).of_keeps events
  dashboard := view ▸ shows.dashboard.mono (freshStats_record noEntry)

/-- The message of a fresh task is recorded as such when it is taken in. -/
theorem mem_delivered_of_takes {index : Nat} {message : Message} (stamped : Stamped trace)
    (waits : trace.console.inbox[index]? = some message)
    (fresh : message.epoch = trace.console.epoch) :
    ∃ start, (start, message.result) ∈ (trace.record (.deliver index) after).delivered ∧
      trace.entered ≤ start := by
  obtain ⟨start, known, fits⟩ := exists_of_forall₂ stamped.inbox (map_epoch_of_waits waits)
  refine ⟨start, List.mem_append_right _ ?_, fits.fresh_iff.mp fresh⟩
  simp [Console.deliveredMessage, zip_getElem?_of_waits waits known]

theorem ShowsFresh.taken {index : Nat} {message : Message} {now : Moment}
    (stamped : Stamped trace) (shows : ShowsFresh trace)
    (waits : trace.console.inbox[index]? = some message)
    (fresh : message.epoch = trace.console.epoch)
    (events : after.events =
      match message.result with
      | .events outcome => trace.console.events.finishLoad outcome
      | _ => trace.console.events)
    (dashboard : after.dashboard =
      match message.result with
      | .stats outcome => trace.console.dashboard.finishRefresh outcome now.instant
      | _ => trace.console.dashboard) :
    ShowsFresh (trace.record (.deliver index) after) := by
  obtain ⟨start, isDelivered, afterEntry⟩ :
      ∃ start, (start, message.result) ∈ (trace.record (.deliver index) after).delivered ∧
        trace.entered ≤ start := mem_delivered_of_takes stamped waits fresh
  cases result : message.result with
  | login accepted =>
      rw [result] at events dashboard
      exact shows.kept rfl (events ▸ .refl _) (dashboard ▸ rfl)
  | events outcome =>
      rw [result] at events dashboard isDelivered
      refine ⟨?_, dashboard ▸ shows.dashboard.mono (freshStats_record rfl)⟩
      have known : ∀ page, outcome = .ok page →
          (trace.record (.deliver index) after).freshPage page := by
        rintro page rfl
        exact ⟨start, isDelivered, afterEntry⟩
      change EventBrowser.Shows _ after.events
      rw [events]
      exact (shows.events.mono (freshPage_record rfl)).finishLoad known
  | stats outcome =>
      rw [result] at events dashboard isDelivered
      refine ⟨events ▸ shows.events.mono (freshPage_record rfl), ?_⟩
      have known : ∀ stats, outcome = .ok stats →
          (trace.record (.deliver index) after).freshStats stats := by
        rintro stats rfl
        exact ⟨start, isDelivered, afterEntry⟩
      change DrawnFrom _ after.dashboard.view
      rw [dashboard]
      exact (shows.dashboard.mono (freshStats_record rfl)).finishRefresh known now.instant

private theorem showsFresh_record {now : Moment}
    (effect : Console.Effect trace.console now step after)
    (stamped : Stamped trace) (shows : ShowsFresh trace) :
    ShowsFresh (trace.record step after) := by
  cases effect with
  | idle idle => exact shows.kept (entersLogin_of_isIdle idle) (.refl _) rfl
  | works isLocal works =>
      obtain ⟨jobs, begins⟩ := works
      exact shows.kept (quiet_of_isLocal isLocal).2.2 begins.events begins.view
  | asks => exact shows.kept rfl (.refl _) rfl
  | logsOut => exact shows.kept rfl (.refl _) rfl
  | entersLogin => exact ⟨EventBrowser.shows_new, .initial⟩
  | entersScreen changed inside admitted works =>
      obtain ⟨jobs, begins⟩ := works
      exact shows.kept (entersLogin_of_isProtected inside) begins.events begins.view
  | turnsAway changed inside refused =>
      exact shows.kept (entersLogin_of_isProtected inside) (.refl _) rfl
  | carries => exact shows.kept rfl (.refl _) rfl
  | fails => exact shows.kept rfl (.refl _) rfl
  | concludes => exact shows.kept rfl (.refl _) rfl
  | drops => exact shows.kept rfl (.refl _) rfl
  | takes waits fresh =>
      exact shows.taken stamped waits fresh (Console.events_takeIn _ _ now)
        (Console.dashboard_takeIn _ _ now)

end Steps

private theorem showsFresh_start (client : Client) (session : Session) (username : Option String)
    (opening : Moment) :
    ShowsFresh (start ((Console.new client session username).opened opening)) := by
  rcases Console.opened_cases (Console.new client session username) opening with
    ⟨_, isReset⟩ | ⟨_, jobs, begins⟩ | ⟨_, away⟩
  · rw [isReset]
    exact ⟨EventBrowser.shows_new, .initial⟩
  · refine ⟨EventBrowser.shows_new.of_keeps begins.events, ?_⟩
    change DrawnFrom _ ((Console.new client session username).opened opening).dashboard.view
    rw [begins.view]
    exact .initial
  · rw [away]
    exact ⟨EventBrowser.shows_new, .initial⟩

/-- The state of the screens behind the login as if nobody had been there. -/
structure Untouched (console : Console) : Prop where
  route : console.route = .login
  events : console.events = EventBrowser.new
  eventsRequested : console.eventsRequested = false
  searching : console.searching = false
  tableView : console.tableView = Screen.TableView.initial
  detailArea : console.detailArea = none
  dashboard : console.dashboard = Dashboard.new

/-- A visit, which begins with the login screen, sees nothing of earlier ones. -/
structure Isolated (trace : Trace) : Prop where
  /-- A message whose task was started before the last login screen changes
  nothing when it comes. -/
  messages : ∀ index message, trace.console.inbox[index]? = some message →
    ∃ start, trace.resultStarts[index]? = some start ∧
      (trace.entered ≤ start ∨ ∀ now, trace.console.step now (.deliver index) =
        { trace.console with inbox := trace.console.inbox.eraseIdx index })
  entries : ∀ now step, trace.console.entersLogin step = true →
    Untouched (trace.console.step now step)
  shown : ShowsFresh trace

private theorem untouched_of_entersLogin {console : Console} {step : Console.Step} (now : Moment)
    (enters : console.entersLogin step = true) : Untouched (console.step now step) := by
  cases step with
  | followRoute =>
      rw [Console.entersLogin, Bool.and_eq_true, Bool.not_eq_true'] at enters
      have toLogin := Route.eq_login_of_not_isProtected enters.2
      change Untouched (console.followRoute now)
      rw [Console.followRoute_eq, enters.1, if_pos rfl, toLogin, Console.enterRoute_login]
      exact ⟨rfl, rfl, rfl, rfl, rfl, rfl, rfl⟩
  | _ => contradiction

/-- In every run, whatever the order of keys, answers and deliveries, all that
is shown was fetched after the last entry of the login screen. -/
theorem isolated_run (client : Client) (session : Session) (username : Option String)
    (opening : Moment) (steps : List (Moment × Console.Step)) :
    ((start ((Console.new client session username).opened opening)).run steps).console =
        ((Console.new client session username).opened opening).run steps ∧
      Isolated ((start ((Console.new client session username).opened opening)).run steps) := by
  obtain ⟨stamped, shows⟩ := run_keeps (fun _ _ _ _ => showsFresh_record)
    (stamped_start client session username opening)
    (showsFresh_start client session username opening) steps
  refine ⟨console_run _ steps, ?messages, fun now _ => untouched_of_entersLogin now, shows⟩
  case messages =>
    intro index message waits
    obtain ⟨begun, known, fits⟩ := exists_of_forall₂ stamped.inbox (map_epoch_of_waits waits)
    refine ⟨begun, known, ?_⟩
    rw [← fits.fresh_iff]
    by_cases fresh : message.epoch = ((start
        ((Console.new client session username).opened opening)).run steps).console.epoch
    · exact .inl fresh
    · refine .inr fun now => ?_
      change Console.deliver _ index now = _
      rw [Console.deliver, waits]
      exact if_neg fresh

end Trace

end EventConsole
