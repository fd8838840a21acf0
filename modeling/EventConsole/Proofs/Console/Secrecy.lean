import EventConsole.Proofs.Console.Veil

/-!
Contract: nothing that is shown tells the password.

A screen is drawn from what is under the veil, and so is all that can be seen of
the login form. Two runs that differ in characters typed into the password stay
the same under the veil, step by step.

Owns: what can be seen of a console, and two runs that differ in the password.

Does not own: that steps respect the veil.
-/

namespace EventConsole.Console

/-! ### Typed characters -/

/-- Which plain character was typed into the password is under the veil. -/
theorem veil_typed {console : Console} (atLogin : console.route = .login)
    (inPassword : console.login.focus = .password) (now : Moment) (c other : Char) :
    (console.step now (.key (Key.char c).press)).veil =
      (console.step now (.key (Key.char other).press)).veil := by
  have typed (one : Char) : console.step now (.key (Key.char one).press) =
      { console with login := (console.login.handleKey (.char one)).2 } := by
    simp [step, handleKey, Key.press, atLogin, loginKey, LoginForm.not_submits_char]
  calc (console.step now (.key (Key.char c).press)).veil
      = { console.veil with login := (console.login.handleKey (.char c)).2.veil } := by
        rw [typed]
        rfl
    _ = { console.veil with login := (console.login.handleKey (.char other)).2.veil } := by
        rw [LoginForm.veil_handleKey_char inPassword c other]
    _ = (console.step now (.key (Key.char other).press)).veil := by
        rw [typed]
        rfl

/-! ### What is shown -/

/-- What can be seen of a console. -/
structure LooksLike (console other : Console) : Prop where
  screen : ∀ width height,
    (console.draw? width height).map Prod.fst = (other.draw? width height).map Prod.fst
  route : console.route = other.route
  focus : console.login.focus = other.login.focus
  error : console.login.error = other.login.error
  pending : console.login.pending = other.login.pending

private theorem drawLogin_veil (canvas : Screen.Canvas) (area : Screen.Rect) (form : LoginForm)
    (server : String) :
    View.drawLogin canvas area form.veil server = View.drawLogin canvas area form server := by
  have password : View.masked form.veil.password = View.masked form.password :=
    View.masked_masked form.password
  unfold View.drawLogin
  rw [password]
  rfl

private theorem drawEvents_veil (console : Console) (canvas : Screen.Canvas) (body : Screen.Rect) :
    (console.veil.drawEvents canvas body).1 = (console.drawEvents canvas body).1 := rfl

/-- A screen is drawn from what is under the veil. -/
theorem drawn_veil (console : Console) (width height : Nat) :
    (console.veil.draw? width height).map Prod.fst =
      (console.draw? width height).map Prod.fst := by
  have route : console.veil.route = console.route := rfl
  have header : console.veil.header = console.header := rfl
  have dashboard : console.veil.dashboard = console.dashboard := rfl
  have login (canvas : Screen.Canvas) (area : Screen.Rect) (server : String) :
      View.drawLogin canvas area console.veil.login server =
        View.drawLogin canvas area console.login server :=
    drawLogin_veil canvas area console.login server
  have client : console.veil.client = console.client := rfl
  simp only [draw?, route, header, dashboard, login, client]
  cases console.route with
  | login => dsimp only [Option.map_some]
  | dashboard =>
      dsimp only
      rw [Option.map_map, Option.map_map]
      rfl
  | events => exact congrArg some (drawEvents_veil console _ _)

private theorem looksLike_of_veil {console other : Console} (same : console.veil = other.veil) :
    LooksLike console other where
  screen width height := by
    rw [← drawn_veil console, ← drawn_veil other, same]
  route := by
    show console.veil.route = other.veil.route
    rw [same]
  focus := by
    show console.veil.login.focus = other.veil.login.focus
    rw [same]
  error := by
    show console.veil.login.error = other.veil.login.error
    rw [same]
  pending := by
    show console.veil.login.pending = other.veil.login.pending
    rw [same]

/-! ### Two runs -/

/-- Two steps of a console that are the same, or type a plain character each into
the password. -/
inductive TypesAlike (console : Console) : Step → Step → Prop
  | same (step : Step) : TypesAlike console step step
  | typed (c other : Char) (atLogin : console.route = .login)
      (inPassword : console.login.focus = .password) :
      TypesAlike console (.key (Key.char c).press) (.key (Key.char other).press)

/-- Two runs from a console, at the same times, that differ only in which plain
characters are typed into the password. -/
inductive DifferInPassword : Console → List (Moment × Step) → List (Moment × Step) → Prop
  | nil (console : Console) : DifferInPassword console [] []
  | cons {console : Console} {now : Moment} {step other : Step}
      {rest others : List (Moment × Step)} (alike : TypesAlike console step other)
      (differ : DifferInPassword (console.step now step) rest others) :
      DifferInPassword console ((now, step) :: rest) ((now, other) :: others)

/-- Steps that are alike lead to the same under the veil. -/
theorem veil_eq_step {console other : Console} (same : console.veil = other.veil) (now : Moment)
    {step otherStep : Step} (alike : TypesAlike console step otherStep) :
    (console.step now step).veil = (other.step now otherStep).veil := by
  have onward : (console.step now otherStep).veil = (other.step now otherStep).veil := by
    rw [← veil_step console, ← veil_step other, same]
  cases alike with
  | same => exact onward
  | typed c d atLogin inPassword => exact (veil_typed atLogin inPassword now c d).trans onward

theorem veil_eq_run {console other : Console} (same : console.veil = other.veil)
    {steps others : List (Moment × Step)} (differ : DifferInPassword console steps others)
    (count : Nat) :
    (console.run (steps.take count)).veil = (other.run (others.take count)).veil := by
  induction differ generalizing other count with
  | nil =>
      rw [List.take_nil]
      exact same
  | @cons console now step otherStep rest others alike _ inductionHypothesis =>
      cases count with
      | zero => exact same
      | succ count => exact inductionHypothesis (veil_eq_step same now alike) count

/-- The password is not shown: after every number of steps two runs look alike that
differ only in which plain characters are typed into the password. -/
theorem looksLike_run {console : Console} {steps others : List (Moment × Step)}
    (differ : DifferInPassword console steps others) (count : Nat) :
    LooksLike (console.run (steps.take count)) (console.run (others.take count)) :=
  looksLike_of_veil (veil_eq_run rfl differ count)

/-- A login form that knows its user. -/
def formOfAda : Console := openedAtLogin ⟨"http://localhost/api"⟩ (some "ada") ⟨0, ⟨0, 0⟩⟩

/-- Types a password of two characters and sends it, and the server refuses it. -/
def signsIn (first second : Char) : List (Moment × Step) :=
  [ (⟨10, ⟨1, 0⟩⟩, .key (Key.char first).press),
    (⟨20, ⟨2, 0⟩⟩, .key (Key.char second).press),
    (⟨30, ⟨3, 0⟩⟩, .key Key.enter.press),
    (⟨40, ⟨4, 0⟩⟩, .send 0),
    (⟨50, ⟨5, 0⟩⟩, .answer 0 (.status 401 none)),
    (⟨60, ⟨6, 0⟩⟩, .deliver 0) ]

/-- Different credentials are sent, and the screens are the same. -/
theorem looksLike_twoPasswords :
    DifferInPassword formOfAda (signsIn 'a' 'b') (signsIn 'x' 'y') ∧
      (formOfAda.run ((signsIn 'a' 'b').take 4)).tasks ≠
        (formOfAda.run ((signsIn 'x' 'y').take 4)).tasks ∧
      LooksLike (formOfAda.run ((signsIn 'a' 'b').take 4))
        (formOfAda.run ((signsIn 'x' 'y').take 4)) := by
  have differ : DifferInPassword formOfAda (signsIn 'a' 'b') (signsIn 'x' 'y') :=
    .cons (.typed 'a' 'x' rfl rfl) (.cons (.typed 'b' 'y' rfl rfl) (.cons (.same _)
      (.cons (.same _) (.cons (.same _) (.cons (.same _) (.nil _))))))
  exact ⟨differ, by decide, looksLike_run differ 4⟩

end EventConsole.Console
