import EventConsole.Proofs.Console.Credential

/-!
Contract: without a credential no screen behind the login is entered, and one
that is still shown is about to be left.

Routes are written to a cell that keeps only the last one, so the wish for the
login screen can be overwritten before it is seen. What is never lost is that
some route waits.

Owns: the guard of the screens behind the login, over all runs.
-/

namespace EventConsole.Console

/-- If a screen behind the login is shown without a credential, a route waits
that the console has not taken up. -/
def Guarded (console : Console) : Prop :=
  console.session.isAuthenticated = false → console.route.isProtected = true →
    console.session.navigator.changed = true

/-! ### One step -/

/-- The guard looks at the credential, the route and the navigator alone. -/
theorem Guarded.of_same {before after : Console} (guarded : Guarded before)
    (credential : after.session.credential = before.session.credential)
    (route : after.route = before.route)
    (navigator : after.session.navigator = before.session.navigator) : Guarded after := by
  intro loggedOut inside
  rw [Session.isAuthenticated, credential] at loggedOut
  rw [route] at inside
  rw [navigator]
  exact guarded loggedOut inside

theorem guarded_of_changed {console : Console}
    (changed : console.session.navigator.changed = true) : Guarded console := fun _ _ => changed

private theorem guarded_of_isAuthenticated {console : Console}
    (loggedIn : console.session.isAuthenticated = true) : Guarded console := fun loggedOut _ =>
  absurd (loggedIn.symm.trans loggedOut) (Bool.false_ne_true ∘ Eq.symm)

/-- An answer leaves the session alone, brings a credential, or takes it away
together with the wish for the login screen. -/
theorem guarded_concludes {console : Console} {index : Nat} {task : Task} {credential : Credential}
    {answer : Answer} (guarded : Guarded console) :
    Guarded
      ({ console with
          session := (conclude console.session task.job credential answer).2 }.finish index task
        (conclude console.session task.job credential answer).1) := by
  have session := conclude_session console.session task.job credential answer
  cases isLogin : task.job.isLogin with
  | true =>
      rw [isLogin, if_pos rfl] at session
      cases accepts : answer.accepts with
      | true =>
          rw [accepts, if_pos rfl] at session
          exact guarded_of_isAuthenticated (by simp [finish, session, Session.isAuthenticated])
      | false =>
          rw [accepts, if_neg Bool.false_ne_true] at session
          exact guarded.of_same (congrArg Session.credential session) rfl
            (congrArg Session.navigator session)
  | false =>
      rw [isLogin, if_neg Bool.false_ne_true] at session
      cases refuses : answer.refuses with
      | true =>
          rw [refuses, if_pos rfl] at session
          exact guarded_of_changed (by simp [finish, session, Session.logout, Session.goto,
            Navigator.goto])
      | false =>
          rw [refuses, if_neg Bool.false_ne_true] at session
          exact guarded.of_same (congrArg Session.credential session) rfl
            (congrArg Session.navigator session)

private theorem guarded_takeIn {console : Console} (guarded : Guarded console) (result : TaskResult)
    (now : Moment) : Guarded (console.takeIn result now) := by
  have same := sameWork_takeIn console result now
  rcases navigator_takeIn console result now with ⟨toDashboard, _⟩ | ⟨_, kept | toLogin⟩
  · exact guarded_of_changed (by rw [toDashboard]; rfl)
  · exact guarded.of_same same.credential same.route kept
  · exact guarded_of_changed (by rw [toLogin]; rfl)

private theorem guarded_effect {console after : Console} {now : Moment} {step : Step}
    (effect : Effect console now step after) (guarded : Guarded console) : Guarded after := by
  cases effect with
  | idle => exact guarded
  | works _ works =>
      obtain ⟨_, begins⟩ := works
      exact guarded.of_same (by rw [begins.session]) begins.route (by rw [begins.session])
  | asks => exact guarded_of_changed rfl
  | logsOut => exact guarded_of_changed rfl
  | entersLogin => exact fun _ inside => absurd inside Bool.false_ne_true
  | entersScreen _ _ admitted works =>
      obtain ⟨_, begins⟩ := works
      exact guarded_of_isAuthenticated (by rw [begins.session]; exact admitted)
  | turnsAway => exact guarded_of_changed rfl
  | carries => exact guarded.of_same rfl rfl rfl
  | fails => exact guarded.of_same rfl rfl rfl
  | concludes => exact guarded_concludes guarded
  | drops => exact guarded.of_same rfl rfl rfl
  | takes =>
      apply guarded_takeIn
      exact guarded.of_same rfl rfl rfl

/-! ### Entering screens -/

/-- Without a credential a screen behind the login is not entered: the screen
shown stays, or it is the login screen. -/
theorem route_enterRoute_of_loggedOut {console : Console}
    (loggedOut : console.session.isAuthenticated = false) (route : Route) (now : Moment) :
    (console.enterRoute route now).route = console.route ∨
      (console.enterRoute route now).route = .login := by
  cases inside : route.isProtected with
  | true =>
      rw [enterRoute_turnsAway console now inside loggedOut]
      exact .inl rfl
  | false =>
      rw [Route.eq_login_of_not_isProtected inside, enterRoute_login]
      exact .inr rfl

/-- A guarded console without a credential shows the login screen once it has
followed the waiting route and, should that be turned away, the one put in its place. -/
theorem Guarded.route_followRoute_twice {console : Console} (guarded : Guarded console)
    (loggedOut : console.session.isAuthenticated = false)
    (shown : console.route.isProtected = true) (now later : Moment) :
    ((console.followRoute now).followRoute later).route = .login := by
  rw [followRoute_eq console now, guarded loggedOut shown, if_pos rfl]
  cases inside : console.session.navigator.route.isProtected with
  | true =>
      rw [enterRoute_turnsAway console.takeUp now inside loggedOut]
      rfl
  | false =>
      rw [Route.eq_login_of_not_isProtected inside, enterRoute_login]
      rfl

/-! ### Runs -/

/-- In every run that begins at the login screen without a credential, a screen
behind the login that is shown without one is about to be left; and entering a
route never leads to such a screen without one. -/
theorem guarded_run (client : Client) (username : Option String) (opening : Moment)
    (steps : List (Moment × Step)) :
    Guarded ((openedAtLogin client username opening).run steps) ∧
      ∀ (console : Console) (route : Route) (now : Moment),
        console.session.isAuthenticated = false →
          (console.enterRoute route now).route ≠ console.route →
            (console.enterRoute route now).route.isProtected = false := by
  constructor
  · have atStart : Guarded (openedAtLogin client username opening) := fun _ inside =>
      absurd inside Bool.false_ne_true
    exact run_keeps (fun console now step => guarded_effect (effect_step console now step))
      atStart steps
  · intro console route now loggedOut moved
    rcases route_enterRoute_of_loggedOut loggedOut route now with stays | toLogin
    · exact absurd stays moved
    · rw [toLogin]
      rfl

/-- The user logs out and presses Tab before the login screen is entered, so that
the wish for it is overwritten; the route asked for instead is turned away. -/
def overwrittenLogout : List (Moment × Step) :=
  [presses (.char 'x'), presses .enter, sends 0, receives 0 200, delivers 0, follows,
    presses (.char 'L'), presses .tab, follows]

theorem guarded_overwrittenLogout :
    (atLogin.run overwrittenLogout).session.isAuthenticated = false ∧
      (atLogin.run overwrittenLogout).route = .dashboard ∧
      (atLogin.run overwrittenLogout).session.navigator.changed = true ∧
      ((atLogin.run overwrittenLogout).enterRoute .login anyTime).route.isProtected = false := by
  have guarded := guarded_run sampleClient (some "ada") anyTime overwrittenLogout
  exact ⟨rfl, rfl, guarded.1 rfl rfl, guarded.2 _ .login anyTime rfl (by decide)⟩

end EventConsole.Console
