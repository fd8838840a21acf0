import EventConsole.Proofs.Console.Credential

/-!
Contract: the turns of the console are runs, and a password does not outlive them.

What holds after every run holds after every turn, since a turn is the run that
follows the route, takes the input, delivers what waits, and looks at the clock.
That order matters: it leaves no time for typing between the result of a login and
the screen that the result asks for.

Owns: turns as runs, the order of steps that turns keep, and that in runs of this
order no screen behind the login is shown while the form holds a password.

Does not own: what can be seen of a password while it is typed (`Console.Secrecy`).
-/

namespace EventConsole

/-! ### The form -/

/-- Nothing that was typed for a login is left, and none is under way. -/
structure LoginForm.IsClear (form : LoginForm) : Prop where
  password : form.password = ""
  pending : form.pending = false

theorem LoginForm.isClear_reset (form : LoginForm) : form.reset.IsClear := ⟨rfl, rfl⟩

namespace Console

/-! ### The order of a turn -/

/-- What a console does next in its turn. -/
inductive Phase where
  | routes
  | input
  | results
  | drawing
deriving DecidableEq, Repr

/-- The phase after a step, if it is a step of this phase. The first result ends the
input, and the timers end the results. Requests are sent and answered meanwhile. -/
def Phase.after? : Phase → Step → Option Phase
  | phase, .send _ | phase, .answer _ _ => some phase
  | .routes, .followRoute => some .input
  | .input, .key _ | .input, .mouse _ => some .input
  | .input, .deliver _ | .results, .deliver _ => some .results
  | .input, .tick | .results, .tick => some .drawing
  | .drawing, .draw _ _ => some .routes
  | _, _ => none

/-- The phase after steps that go turn by turn. -/
def Phase.afterAll? (phase : Phase) (steps : List (Moment × Step)) : Option Phase :=
  steps.foldlM (fun phase timed => phase.after? timed.2) phase

section Order

variable (phase : Phase) (now : Moment)

private theorem Phase.afterAll?_append (steps more : List (Moment × Step)) :
    phase.afterAll? (steps ++ more) = (phase.afterAll? steps).bind (·.afterAll? more) :=
  List.foldlM_append

theorem Phase.afterAll?_cons (step : Step) (rest : List (Moment × Step)) :
    phase.afterAll? ((now, step) :: rest) = (phase.after? step).bind (·.afterAll? rest) :=
  List.foldlM_cons

end Order

/-! ### Turns -/

theorem run_append (console : Console) (steps more : List (Moment × Step)) :
    console.run (steps ++ more) = (console.run steps).run more := by
  induction steps generalizing console with
  | nil => rfl
  | cons head rest inductionHypothesis => exact inductionHypothesis _

def UserInput.toStep : UserInput → Step
  | .key press => .key press
  | .mouse event => .mouse event

private theorem foldl_takeInput (console : Console) (now : Moment) (inputs : List UserInput) :
    inputs.foldl (fun console input => console.takeInput now input) console =
      console.run (inputs.map fun input => (now, input.toStep)) := by
  induction inputs generalizing console with
  | nil => rfl
  | cons input rest inductionHypothesis =>
      rw [List.foldl_cons, inductionHypothesis]
      cases input <;> rfl

def withInbox (console : Console) (inbox : List Message) : Console :=
  { console with inbox := inbox }

private theorem takeIn_withInbox (console : Console) (inbox : List Message) (result : TaskResult)
    (now : Moment) :
    (console.withInbox inbox).takeIn result now = (console.takeIn result now).withInbox inbox := by
  cases result with
  | login accepted => cases accepted <;> rfl
  | events outcome | stats outcome =>
      simp only [takeIn, requireAuth]
      split <;> rfl

/-- The messages that wait do not matter to the one that is taken in. -/
theorem apply_withInbox (console : Console) (inbox : List Message) (message : Message)
    (now : Moment) :
    (console.withInbox inbox).apply message now = (console.apply message now).withInbox inbox := by
  have sameEpoch : (console.withInbox inbox).epoch = console.epoch := rfl
  rw [apply, apply, sameEpoch]
  split
  · exact takeIn_withInbox console inbox message.result now
  · rfl

/-- To take in all messages is to take the first one until none is left. -/
theorem deliverAll_eq_run (console : Console) (now : Moment) :
    console.deliverAll now =
      console.run (List.replicate console.inbox.length (now, .deliver 0)) := by
  change console.inbox.foldl (fun console message => console.apply message now)
    (console.withInbox []) = _
  generalize waiting : console.inbox = messages
  induction messages generalizing console with
  | nil =>
      change console.withInbox [] = console
      rw [← waiting]
      rfl
  | cons message rest inductionHypothesis =>
      have first : console.step now (.deliver 0) = (console.withInbox rest).apply message now := by
        simp only [step, deliver, waiting, List.getElem?_cons_zero, List.eraseIdx_cons_zero]
        rfl
      have left : (console.step now (.deliver 0)).inbox = rest := by
        rw [first, apply_withInbox]
        rfl
      have emptied : (console.withInbox []).apply message now =
          (console.step now (.deliver 0)).withInbox [] := by
        rw [first, apply_withInbox, apply_withInbox]
        rfl
      rw [List.foldl_cons, List.length_cons, List.replicate_succ, run, emptied]
      exact inductionHypothesis _ left

private theorem afterAll?_toStep (now : Moment) (inputs : List UserInput) :
    Phase.input.afterAll? (inputs.map fun input => (now, input.toStep)) = some .input := by
  induction inputs with
  | nil => rfl
  | cons input rest inductionHypothesis =>
      rw [List.map_cons, Phase.afterAll?_cons]
      cases input <;> exact inductionHypothesis

private theorem afterAll?_deliver {phase : Phase} (mayDeliver : phase = .input ∨ phase = .results)
    (now : Moment) (count : Nat) :
    phase.afterAll? (List.replicate count (now, .deliver 0) ++ [(now, .tick)]) =
      some .drawing := by
  induction count generalizing phase with
  | zero => rcases mayDeliver with rfl | rfl <;> rfl
  | succ count inductionHypothesis =>
      rw [List.replicate_succ, List.cons_append, Phase.afterAll?_cons]
      rcases mayDeliver with rfl | rfl <;> exact inductionHypothesis (.inr rfl)

/-- A turn of the console is a run in order. It ends before the drawing, unless the
input ends the console. -/
theorem exists_run_turn (console : Console) (now : Moment) (inputs : List UserInput) :
    ∃ steps phase, console.turn now inputs = console.run steps ∧
      Phase.routes.afterAll? steps = some phase ∧
        (phase = .drawing ∨ (console.turn now inputs).quit = true) := by
  let asked : List (Moment × Step) :=
    (now, .followRoute) :: inputs.map fun input => (now, input.toStep)
  have taken : inputs.foldl (fun console input => console.takeInput now input)
      (console.followRoute now) = console.run asked :=
    foldl_takeInput _ now inputs
  have askedInOrder : Phase.routes.afterAll? asked = some .input := afterAll?_toStep now inputs
  unfold turn
  rw [taken]
  dsimp only
  cases quits : (console.run asked).quit with
  | true => exact ⟨asked, .input, rfl, askedInOrder, .inr quits⟩
  | false =>
      let delivered := List.replicate (console.run asked).inbox.length (now, Step.deliver 0)
      refine ⟨asked ++ (delivered ++ [(now, .tick)]), .drawing, ?_, ?_, .inl rfl⟩
      · rw [run_append, run_append, ← deliverAll_eq_run]
        rfl
      · rw [Phase.afterAll?_append, askedInOrder]
        exact afterAll?_deliver (.inl rfl) now _

theorem Reachable.turn {console : Console} (reachable : Reachable console) (now : Moment)
    (inputs : List UserInput) : Reachable (console.turn now inputs) := by
  obtain ⟨client, session, username, opening, steps, rfl⟩ := reachable
  obtain ⟨more, _, same, _⟩ := exists_run_turn
    (((Console.new client session username).opened opening).run steps) now inputs
  exact ⟨client, session, username, opening, steps ++ more, same.trans (run_append _ _ _).symm⟩

/-! ### Steps that leave the form -/

/-- The form is the same as before, or it is clear. -/
def LeavesForm (before after : Console) : Prop :=
  after.login = before.login ∨ after.login.IsClear

theorem LeavesForm.isClear {before after : Console} (leaves : LeavesForm before after)
    (clear : before.login.IsClear) : after.login.IsClear := by
  rcases leaves with same | cleared
  · rwa [same]
  · exact cleared

section Form

variable (console : Console) (now : Moment)

private theorem login_browse (change : Option EventBrowser.Fetch × EventBrowser) :
    (console.browse change).login = console.login := by
  unfold browse
  cases change.1 <;> rfl

theorem login_runAction (action : EventsAction) :
    (console.runAction action).login = console.login := by
  have looked :
      (if console.events.detail.isNone then { console with detailArea := none }
        else console).login = console.login := by
    split <;> rfl
  unfold runAction
  cases action with
  | nothing => exact looked
  | reload | previousPage | nextPage => exact (login_browse _ _).trans looked

private theorem login_handleMouse (event : MouseEvent) :
    (console.handleMouse event).login = console.login := by
  unfold handleMouse
  split
  · exact login_runAction _ _
  · rfl

private theorem login_screenKey (key : Key) :
    (console.screenKey key now).login = console.login := by
  unfold screenKey
  split
  -- Only the last case hands the key on to a screen.
  case h_6 =>
    split
    · unfold dashboardKey
      split <;> rfl
    · exact login_runAction _ _
  all_goals rfl

/-- Behind the login no key reaches the form. -/
theorem login_handleKey {press : KeyPress} (inside : console.route.isProtected = true) :
    (console.handleKey press now).login = console.login := by
  have notLogin : console.route ≠ .login := by
    intro atLogin
    rw [atLogin] at inside
    contradiction
  by_cases interrupt : press.control = true ∧ press.key = .char 'c'
  · rw [handleKey, if_pos interrupt]
  · rw [handleKey, if_neg interrupt, if_neg notLogin]
    split
    · exact login_runAction _ _
    · exact login_screenKey console now press.key

private theorem login_tick : (console.tick now).login = console.login := by
  unfold tick
  dsimp only
  split <;> rfl

private theorem login_drawn (width height : Nat) :
    (console.drawn width height).login = console.login := by
  obtain drawn | ⟨canvas, body, drawn⟩ | drawn := drawn_cases console width height
  · rw [drawn]
  · rw [drawn]
    rfl
  · rw [drawn]

private theorem leavesForm_enterRoute (route : Route) :
    LeavesForm console (console.enterRoute route now) := by
  unfold enterRoute
  split
  · exact .inl rfl
  cases route with
  | login => exact .inr (LoginForm.isClear_reset _)
  | dashboard =>
      dsimp only
      split <;> exact .inl rfl
  | events =>
      dsimp only
      split
      · exact .inl rfl
      · exact .inl (login_browse _ _)

private theorem leavesForm_followRoute : LeavesForm console (console.followRoute now) := by
  rw [followRoute_eq]
  split
  · exact leavesForm_enterRoute console.takeUp now _
  · exact .inl rfl

/-- The result of a login clears the form, whatever it is; others leave it. -/
theorem leavesForm_takeIn (result : TaskResult) :
    LeavesForm console (console.takeIn result now) := by
  cases result with
  | login accepted =>
      cases accepted with
      | true => exact .inr (LoginForm.isClear_reset _)
      | false => exact .inr ⟨rfl, rfl⟩
  | events outcome | stats outcome =>
      unfold takeIn
      dsimp only
      split <;> exact .inl rfl

end Form

/-! ### Runs in order -/

/-- A route waits to be followed that is not the login screen. -/
def awaitsScreen (console : Console) : Bool :=
  console.session.navigator.changed && console.session.navigator.route.isProtected

/-- The form is clear behind the login and whenever a screen there is asked for. So
no such screen may wait while keys go to the form. -/
structure Tidy (phase : Phase) (console : Console) : Prop where
  inside : console.route.isProtected = true → console.login.IsClear
  awaiting : console.awaitsScreen = true → console.login.IsClear
  typing : phase = .input → console.route.isProtected = false → console.awaitsScreen = false

section Tidy

variable {phase next : Phase} {console after : Console} {now : Moment}

/-- The wish for the login screen takes the place of any other. -/
theorem awaitsScreen_of_navigator
    (navigator : after.session.navigator = console.session.navigator ∨
      after.session.navigator = ⟨.login, true⟩)
    (awaits : after.awaitsScreen = true) : console.awaitsScreen = true := by
  unfold awaitsScreen at *
  rcases navigator with same | toLogin
  · rwa [same] at awaits
  · rw [toLogin] at awaits
    contradiction

/-- A step that stays on its screen and asks for no screen behind the login. -/
theorem Tidy.of_leaves (tidy : Tidy phase console) (leaves : LeavesForm console after)
    (route : after.route = console.route)
    (navigator : after.session.navigator = console.session.navigator ∨
      after.session.navigator = ⟨.login, true⟩)
    (fromInput : next = .input → phase = .input) : Tidy next after where
  inside := fun inside => leaves.isClear (tidy.inside (route ▸ inside))
  awaiting := fun awaits =>
    leaves.isClear (tidy.awaiting (awaitsScreen_of_navigator navigator awaits))
  typing := by
    intro isInput unprotected
    rw [← Bool.not_eq_true]
    intro awaits
    have none := tidy.typing (fromInput isInput) (route ▸ unprotected)
    rw [awaitsScreen_of_navigator navigator awaits] at none
    contradiction

theorem Tidy.of_works (tidy : Tidy phase console) (leaves : LeavesForm console after)
    (works : Works console after) (fromInput : next = .input → phase = .input) :
    Tidy next after := by
  obtain ⟨_, begins⟩ := works
  exact tidy.of_leaves leaves begins.route (.inl (by rw [begins.session])) fromInput

private theorem route_handleKey (console : Console) (press : KeyPress) (now : Moment) :
    (console.handleKey press now).route = console.route := by
  cases leaves : console.logsOut press with
  | true =>
      rw [handleKey_of_logsOut console now leaves]
      rfl
  | false =>
      rcases handleKey_of_not_logsOut console now leaves with ⟨_, begins⟩ | ⟨_, _, _, asks⟩
      · exact begins.route
      · rw [asks]
        rfl

/-- On the login screen a key changes the form, but asks for no other screen. -/
theorem Tidy.key (tidy : Tidy .input console) (press : KeyPress) :
    Tidy .input (console.handleKey press now) := by
  have route := route_handleKey console press now
  cases inside : console.route.isProtected with
  | true =>
      have clear : (console.handleKey press now).login.IsClear := by
        rw [login_handleKey console now inside]
        exact tidy.inside inside
      refine ⟨fun _ => clear, fun _ => clear, fun _ unprotected => ?_⟩
      rw [route, inside] at unprotected
      contradiction
  | false =>
      have stays : console.logsOut press = false := by
        rw [logsOut, inside]
        rfl
      have works : Works console (console.handleKey press now) := by
        refine (handleKey_of_not_logsOut console now stays).resolve_right ?_
        rintro ⟨isProtected, _⟩
        rw [inside] at isProtected
        contradiction
      obtain ⟨_, begins⟩ := works
      have noScreen : (console.handleKey press now).awaitsScreen = false := by
        rw [awaitsScreen, begins.session]
        exact tidy.typing rfl inside
      refine ⟨fun isProtected => ?_, fun awaits => ?_, fun _ _ => noScreen⟩
      · rw [route, inside] at isProtected
        contradiction
      · rw [noScreen] at awaits
        contradiction

/-- Whatever waited is taken up before the keys. -/
theorem Tidy.followRoute (tidy : Tidy .routes console) : Tidy .input (console.followRoute now) := by
  have leaves := leavesForm_followRoute console now
  have effect := effect_followRoute console now
  generalize console.followRoute now = after at leaves effect
  cases effect with
  | idle idle =>
      refine ⟨tidy.inside, tidy.awaiting, fun _ _ => ?_⟩
      rw [isIdle, Bool.not_eq_true'] at idle
      rw [awaitsScreen, idle, Bool.false_and]
  | works isLocal => contradiction
  | entersLogin =>
      refine ⟨?inside, ?awaiting, fun _ _ => rfl⟩
      case inside =>
        intro inside
        contradiction
      case awaiting =>
        intro awaiting
        contradiction
  | entersScreen changed inside admitted works =>
      obtain ⟨_, begins⟩ := works
      have clear := leaves.isClear (tidy.awaiting (by rw [awaitsScreen, changed, inside]; rfl))
      have shown : after.route.isProtected = true := by
        rw [begins.route]
        exact inside
      refine ⟨fun _ => clear, fun _ => clear, fun _ unprotected => ?_⟩
      rw [shown] at unprotected
      contradiction
  | turnsAway =>
      refine ⟨tidy.inside, ?awaiting, fun _ _ => rfl⟩
      intro awaiting
      contradiction

/-- Of all results only an accepted login asks for a screen, and it clears the form. -/
theorem Tidy.takeIn (tidy : Tidy phase console) (result : TaskResult) :
    Tidy .results (console.takeIn result now) := by
  have leaves := leavesForm_takeIn console now result
  have same := sameWork_takeIn console result now
  rcases navigator_takeIn console result now with ⟨_, rfl⟩ | ⟨_, navigator⟩
  · have clear : (console.takeIn (.login true) now).login.IsClear := LoginForm.isClear_reset _
    exact ⟨fun _ => clear, fun _ => clear, nofun⟩
  · exact tidy.of_leaves leaves same.route navigator nofun

theorem Tidy.deliver (tidy : Tidy phase console) (index : Nat) :
    Tidy .results (console.deliver index now) := by
  have effect := effect_deliver console now index
  generalize console.deliver index now = after at effect
  cases effect with
  | idle | drops => exact ⟨tidy.inside, tidy.awaiting, nofun⟩
  | works isLocal => contradiction
  | takes =>
      have taken : Tidy phase { console with inbox := console.inbox.eraseIdx index } :=
        ⟨tidy.inside, tidy.awaiting, tidy.typing⟩
      exact taken.takeIn _

theorem Tidy.send (tidy : Tidy phase console) (now : Moment) (index : Nat) :
    Tidy phase (console.send index).2 := by
  have effect := effect_send console now index
  generalize (console.send index).2 = after at effect
  cases effect with
  | idle | carries | fails => exact ⟨tidy.inside, tidy.awaiting, tidy.typing⟩
  | works isLocal => contradiction

/-- A refusal asks for the login screen at any moment. -/
theorem Tidy.answer (tidy : Tidy phase console) (now : Moment) (index : Nat) (answer : Answer) :
    Tidy phase (console.answer index answer) := by
  have effect := effect_answer console now index answer
  generalize console.answer index answer = after at effect
  cases effect with
  | idle => exact tidy
  | works isLocal => contradiction
  | concludes => exact tidy.of_leaves (.inl rfl) rfl (navigator_conclude _ _ _ _) id

theorem tidy_step (tidy : Tidy phase console) (now : Moment) {step : Step}
    (inOrder : phase.after? step = some next) : Tidy next (console.step now step) := by
  cases step with
  | key press =>
      cases phase with
      | input => cases inOrder; exact tidy.key press
      | _ => contradiction
  | mouse event =>
      cases phase with
      | input =>
          cases inOrder
          exact tidy.of_works (.inl (login_handleMouse console event))
            (works_handleMouse console event) id
      | _ => contradiction
  | followRoute =>
      cases phase with
      | routes => cases inOrder; exact tidy.followRoute
      | _ => contradiction
  | send index =>
      cases phase <;> cases inOrder <;> exact tidy.send now index
  | answer index answer =>
      cases phase <;> cases inOrder <;> exact tidy.answer now index answer
  | deliver index =>
      cases phase with
      | input | results => cases inOrder; exact tidy.deliver index
      | _ => contradiction
  | tick =>
      have works := works_tick console now
      have leaves : LeavesForm console (console.tick now) := .inl (login_tick console now)
      cases phase with
      | input | results => cases inOrder; exact tidy.of_works leaves works nofun
      | _ => contradiction
  | draw width height =>
      have works := works_drawn console width height
      have leaves : LeavesForm console (console.drawn width height) :=
        .inl (login_drawn console width height)
      cases phase with
      | drawing => cases inOrder; exact tidy.of_works leaves works nofun
      | _ => contradiction

theorem tidy_run {steps : List (Moment × Step)} (tidy : Tidy phase console)
    (inOrder : phase.afterAll? steps = some next) : Tidy next (console.run steps) := by
  induction steps generalizing phase console with
  | nil =>
      cases inOrder
      exact tidy
  | cons head rest inductionHypothesis =>
      obtain ⟨now, step⟩ := head
      obtain ⟨between, first, others⟩ := Option.bind_eq_some_iff.mp inOrder
      exact inductionHypothesis (tidy_step tidy now first) others

end Tidy

/-- Consoles that a run in the order of turns can lead to, from the login screen on. -/
def ReachableInTurns (console : Console) : Prop :=
  ∃ client session username opening steps phase,
    session.navigator.route = .login ∧ Phase.routes.afterAll? steps = some phase ∧
      console = ((Console.new client session username).opened opening).run steps

/-- Whatever is typed, answered and delivered in the order of turns, no screen behind
the login is shown while a password is left in the form or a login is under way. -/
theorem isClear_of_reachableInTurns {console : Console} (reachable : ReachableInTurns console)
    (inside : console.route.isProtected = true) :
    console.login.password = "" ∧ console.login.pending = false := by
  obtain ⟨client, session, username, opening, steps, phase, onLogin, inOrder, rfl⟩ := reachable
  have opened : (Console.new client session username).opened opening =
      { Console.new client session username with route := .login }.reset := by
    rw [Console.opened, Console.new, onLogin]
    rfl
  have tidy : Tidy .routes ((Console.new client session username).opened opening) := by
    rw [opened]
    exact ⟨nofun, nofun, nofun⟩
  have clear := (tidy_run tidy inOrder).inside inside
  exact ⟨clear.password, clear.pending⟩

def ticks : Moment × Step := (anyTime, .tick)

def draws : Moment × Step := (anyTime, .draw 80 24)

/-- Two logins, turn by turn. The answers come between the turns, and the request of
the first session is still under way when the second one is entered. -/
def secondLoginInTurns : List (Moment × Step) :=
  [follows, presses (.char 'x'), presses .enter, sends 0, ticks, draws, receives 0 200,
    follows, delivers 0, ticks, draws,
    follows, sends 0, presses (.char 'L'), ticks, draws,
    follows, presses (.char 'y'), presses .enter, sends 1, ticks, draws, receives 1 200,
    follows, delivers 0, ticks, draws,
    follows]

theorem isClear_secondLoginInTurns :
    ReachableInTurns (atLogin.run secondLoginInTurns) ∧
      (atLogin.run secondLoginInTurns).route.isProtected = true ∧
      (atLogin.run secondLoginInTurns).login.password = "" ∧
      (atLogin.run secondLoginInTurns).login.pending = false := by
  have reachable : ReachableInTurns (atLogin.run secondLoginInTurns) :=
    ⟨sampleClient, Session.new .login, some "ada", anyTime, secondLoginInTurns, .input,
      rfl, rfl, rfl⟩
  have inside : (atLogin.run secondLoginInTurns).route.isProtected = true := by decide +kernel
  exact ⟨reachable, inside, isClear_of_reachableInTurns reachable inside⟩

/-- Out of order, a key between the result of a login and the screen that it asks for
stays in the form. -/
example :
    let console := atLogin.run
      [presses (.char 'x'), presses .enter, sends 0, receives 0 200, delivers 0,
        presses (.char 'y'), follows]
    console.route = .dashboard ∧ console.login.password = "y" :=
  ⟨rfl, rfl⟩

end Console

end EventConsole
