import EventConsole.Proofs.Console.Credential
import EventConsole.Proofs.Console.Trace

/-!
Contract: when an accepted login leads to the screens behind it.

It does so exactly if no login screen was entered between its start and its
acceptance. Otherwise the session keeps its credential while the login screen is
shown.

Owns: the screen shown once nothing is under way, in terms of accepted logins.
-/

namespace EventConsole

namespace Console

/-- The word that a login of the present visit was accepted waits to be taken in. -/
def HasSuccess (console : Console) : Prop :=
  ∃ message ∈ console.inbox, message.epoch = console.epoch ∧ message.result = .login true

theorem hasSuccess_finish_iff (console : Console) (index : Nat) (task : Task)
    (result : TaskResult) :
    HasSuccess (console.finish index task result) ↔
      HasSuccess console ∨ task.epoch = console.epoch ∧ result = .login true := by
  simp only [HasSuccess, finish, List.mem_append, List.mem_singleton, or_and_right, exists_or,
    exists_eq_left]

/-- Taking another message away leaves the word waiting. -/
theorem hasSuccess_eraseIdx_iff {before after : Console} {index : Nat} {message : Message}
    (waits : before.inbox[index]? = some message)
    (other : ¬ (message.epoch = before.epoch ∧ message.result = .login true))
    (epoch : after.epoch = before.epoch) (inbox : after.inbox = before.inbox.eraseIdx index) :
    HasSuccess after ↔ HasSuccess before := by
  constructor
  · rintro ⟨success, member, fresh, accepted⟩
    rw [inbox] at member
    exact ⟨success, List.mem_of_mem_eraseIdx member, epoch ▸ fresh, accepted⟩
  · rintro ⟨success, member, fresh, accepted⟩
    obtain ⟨place, isThere⟩ := List.getElem?_of_mem member
    have elsewhere : place ≠ index := by
      rintro rfl
      rw [waits] at isThere
      cases isThere
      exact other ⟨fresh, accepted⟩
    refine ⟨success, ?_, epoch ▸ fresh, accepted⟩
    rw [inbox, List.mem_eraseIdx_iff_getElem?]
    exact ⟨place, elsewhere, isThere⟩

/-- Nothing is under way: no task, no message and no change of route. -/
structure Quiet (console : Console) : Prop where
  tasks : console.tasks = []
  inbox : console.inbox = []
  navigator : console.session.navigator.changed = false

end Console

namespace Trace

open Console (HasSuccess hasSuccess_finish_iff)

/-- A login was accepted that was started after the last entry of the login screen. -/
def LoggedIn (trace : Trace) : Prop := ∃ start ∈ trace.accepted, trace.entered ≤ start

/-- The screen follows the accepted logins: after one of the present visit the
console is behind the login or on its way, and before it is at the login. -/
structure Settles (trace : Trace) : Prop where
  past : ∀ start ∈ trace.accepted, start ≤ trace.clock
  inside : LoggedIn trace → trace.console.route.isProtected = true ∨
    trace.console.session.navigator.changed = true ∨ HasSuccess trace.console
  outside : ¬ LoggedIn trace → trace.console.route = .login ∧
    (trace.console.session.navigator.changed = true →
      trace.console.session.navigator.route = .login) ∧ ¬ HasSuccess trace.console

section Steps

variable {trace : Trace} {step : Console.Step} {after : Console}

theorem loggedIn_record_iff (noEntry : trace.console.entersLogin step = false)
    (noLogin : trace.console.acceptedLogin step = none) :
    LoggedIn (trace.record step after) ↔ LoggedIn trace := by
  simp [LoggedIn, record, noEntry, noLogin]

theorem past_record (past : ∀ start ∈ trace.accepted, start ≤ trace.clock)
    (noLogin : trace.console.acceptedLogin step = none) :
    ∀ start ∈ (trace.record step after).accepted, start ≤ trace.clock + 1 := by
  intro start isAccepted
  simp only [record, noLogin, Option.bind_none, Option.toList_none, List.append_nil] at isAccepted
  exact Nat.le_succ_of_le (past start isAccepted)

/-- A step that keeps the screen and the word of success, and asks at most for
the login screen. -/
theorem Settles.kept (settles : Settles trace)
    (noEntry : trace.console.entersLogin step = false)
    (noLogin : trace.console.acceptedLogin step = none)
    (route : after.route = trace.console.route)
    (navigator : after.session.navigator = trace.console.session.navigator ∨
      after.session.navigator = ⟨.login, true⟩)
    (success : HasSuccess after ↔ HasSuccess trace.console) :
    Settles (trace.record step after) where
  past := past_record settles.past noLogin
  inside := by
    rw [loggedIn_record_iff noEntry noLogin]
    intro loggedIn
    change after.route.isProtected = true ∨ after.session.navigator.changed = true ∨
      HasSuccess after
    rw [route, success]
    rcases navigator with same | toLogin
    · rw [same]
      exact settles.inside loggedIn
    · rw [toLogin]
      exact .inr (.inl rfl)
  outside := by
    rw [loggedIn_record_iff noEntry noLogin]
    intro loggedOut
    obtain ⟨atLogin, wanted, noSuccess⟩ := settles.outside loggedOut
    refine ⟨route.trans atLogin, ?_, fun waits => noSuccess (success.mp waits)⟩
    change after.session.navigator.changed = true → after.session.navigator.route = .login
    rcases navigator with same | toLogin
    · rw [same]
      exact wanted
    · rw [toLogin]
      exact fun _ => rfl

/-- A step that asks for a screen, or shows one behind the login, after a login. -/
theorem Settles.reached (settles : Settles trace)
    (noEntry : trace.console.entersLogin step = false)
    (noLogin : trace.console.acceptedLogin step = none) (loggedIn : LoggedIn trace)
    (there : after.route.isProtected = true ∨ after.session.navigator.changed = true) :
    Settles (trace.record step after) where
  past := past_record settles.past noLogin
  inside := fun _ => there.imp_right .inl
  outside := fun loggedOut => absurd ((loggedIn_record_iff noEntry noLogin).mpr loggedIn) loggedOut

/-- What only a console behind the login can do, a login has allowed. -/
theorem Settles.loggedIn_of_isProtected (settles : Settles trace)
    (inside : trace.console.route.isProtected = true) : LoggedIn trace := by
  by_contra loggedOut
  rw [(settles.outside loggedOut).1] at inside
  contradiction

private theorem Settles.loggedIn_of_navigator (settles : Settles trace)
    (changed : trace.console.session.navigator.changed = true)
    (inside : trace.console.session.navigator.route.isProtected = true) : LoggedIn trace := by
  by_contra loggedOut
  rw [(settles.outside loggedOut).2.1 changed] at inside
  contradiction

/-- At the login screen nobody is logged in, and what waits is of earlier visits. -/
theorem Settles.atEntry (settles : Settles trace) (stamped : Stamped trace)
    (entry : trace.console.entersLogin step = true)
    (noLogin : trace.console.acceptedLogin step = none)
    (epoch : after.epoch = trace.console.epoch + 1) (inbox : after.inbox = trace.console.inbox)
    (route : after.route = .login) (settled : after.session.navigator.changed = false) :
    Settles (trace.record step after) where
  past := past_record settles.past noLogin
  inside := by
    rintro ⟨start, isAccepted, fresh⟩
    have past : start ≤ trace.clock := by
      simp only [record, noLogin, Option.bind_none, Option.toList_none, List.append_nil]
        at isAccepted
      exact settles.past start isAccepted
    simp only [record, entry, if_true] at fresh
    omega
  outside := by
    intro _
    refine ⟨route, fun changed => ?_, ?_⟩
    · exact absurd (settled.symm.trans changed) Bool.false_ne_true
    rintro ⟨message, member, fresh, _⟩
    change message ∈ after.inbox at member
    change message.epoch = after.epoch at fresh
    rw [inbox] at member
    obtain ⟨index, waits⟩ := List.getElem?_of_mem member
    obtain ⟨_, _, fits⟩ := exists_of_forall₂ stamped.inbox (map_epoch_of_waits waits)
    have notLater := fits.notLater
    omega

private theorem acceptedLogin_of_waits {index : Nat} {task : Task} {credential : Credential}
    (waits : trace.console.tasks[index]? = some task) (sent : task.carried = some credential)
    (answer : Answer) :
    trace.console.acceptedLogin (.answer index answer) =
      if task.job.isLogin && answer.accepts then some index else none := by
  simp [Console.acceptedLogin, waits, sent]

/-- An answer that accepts a login puts it on record and its word in the inbox. -/
theorem Settles.accepted {index : Nat} {task : Task} {credential : Credential} {answer : Answer}
    {session : Session} (settles : Settles trace) (stamped : Stamped trace)
    (waits : trace.console.tasks[index]? = some task) (sent : task.carried = some credential)
    (accepts : (task.job.isLogin && answer.accepts) = true)
    (navigator : session.navigator = trace.console.session.navigator) :
    Settles (trace.record (.answer index answer)
      ({ trace.console with session := session }.finish index task (.login true))) := by
  have waitsEpoch : (trace.console.tasks.map Task.epoch)[index]? = some task.epoch := by
    rw [List.getElem?_map, waits, Option.map_some]
  obtain ⟨begun, known, fits⟩ := exists_of_forall₂ stamped.tasks waitsEpoch
  have isAccepted : trace.console.acceptedLogin (.answer index answer) = some index := by
    rw [acceptedLogin_of_waits waits sent, accepts, if_pos rfl]
  have ended : trace.console.endedTask
      ({ trace.console with session := session }.finish index task (.login true))
      (.answer index answer) = some index := if_pos (endedTask_of_waits waits rfl)
  have onRecord : ∀ start, start ∈ (trace.record (.answer index answer)
      ({ trace.console with session := session }.finish index task (.login true))).accepted ↔
        start ∈ trace.accepted ∨ start = begun := by
    intro start
    rw [record_of_ended ended known, isAccepted]
    simp
  have success := hasSuccess_finish_iff { trace.console with session := session } index task
    (.login true)
  refine ⟨?past, ?inside, ?outside⟩
  case past =>
    intro start member
    rcases (onRecord start).mp member with before | rfl
    · exact Nat.le_succ_of_le (settles.past start before)
    · exact Nat.le_succ_of_le fits.past
  case inside =>
    rintro ⟨start, member, fresh⟩
    rcases (onRecord start).mp member with before | rfl
    · rcases settles.inside ⟨start, before, fresh⟩ with inside | changed | waiting
      · exact .inl inside
      · exact .inr (.inl (navigator ▸ changed))
      · exact .inr (.inr (success.mpr (.inl waiting)))
    · exact .inr (.inr (success.mpr (.inr ⟨fits.fresh_iff.mpr fresh, rfl⟩)))
  case outside =>
    intro loggedOut
    have before : ¬ LoggedIn trace := fun ⟨start, member, fresh⟩ =>
      loggedOut ⟨start, (onRecord start).mpr (.inl member), fresh⟩
    obtain ⟨atLogin, wanted, noSuccess⟩ := settles.outside before
    refine ⟨atLogin, navigator ▸ wanted, fun waiting => ?_⟩
    rcases success.mp waiting with waiting | ⟨fresh, _⟩
    · exact noSuccess waiting
    · exact loggedOut ⟨begun, (onRecord begun).mpr (.inr rfl), fits.fresh_iff.mp fresh⟩

theorem Settles.concluded {index : Nat} {task : Task} {credential : Credential} {answer : Answer}
    (settles : Settles trace) (stamped : Stamped trace)
    (waits : trace.console.tasks[index]? = some task) (sent : task.carried = some credential) :
    Settles (trace.record (.answer index answer)
      ({ trace.console with
          session := (Console.conclude trace.console.session task.job credential answer).2
        }.finish index task
        (Console.conclude trace.console.session task.job credential answer).1)) := by
  have session := Console.conclude_session trace.console.session task.job credential answer
  cases accepts : task.job.isLogin && answer.accepts with
  | true =>
      rw [Console.conclude_eq_login_true_iff.mpr (Bool.and_eq_true_iff.mp accepts)]
      refine settles.accepted stamped waits sent accepts ?_
      rw [Bool.and_eq_true] at accepts
      rw [session, accepts.1, accepts.2]
      rfl
  | false =>
      have noLogin : trace.console.acceptedLogin (.answer index answer) = none := by
        rw [acceptedLogin_of_waits waits sent, accepts]
        rfl
      refine settles.kept rfl noLogin rfl (Console.navigator_conclude _ _ _ _)
        ((hasSuccess_finish_iff _ _ _ _).trans (or_iff_left fun success => ?_))
      have both := Console.conclude_eq_login_true_iff.mp success.2
      rw [both.1, both.2] at accepts
      contradiction

private theorem settles_record {now : Moment} (effect : Console.Effect trace.console now step after)
    (stamped : Stamped trace) (settles : Settles trace) : Settles (trace.record step after) := by
  cases effect with
  | idle idle =>
      exact settles.kept (entersLogin_of_isIdle idle) (acceptedLogin_of_isIdle idle) rfl (.inl rfl)
        Iff.rfl
  | works isLocal works =>
      obtain ⟨jobs, begins⟩ := works
      obtain ⟨_, noLogin, noEntry⟩ := quiet_of_isLocal isLocal
      exact settles.kept noEntry noLogin begins.route (.inl (begins.session ▸ rfl))
        (by rw [HasSuccess, begins.inbox, begins.epoch, HasSuccess])
  | asks stays inside =>
      exact settles.reached rfl rfl (settles.loggedIn_of_isProtected inside) (.inr rfl)
  | logsOut leaves =>
      have inside : trace.console.route.isProtected = true := by
        rw [Console.logsOut, Bool.and_eq_true, Bool.and_eq_true] at leaves
        exact leaves.1.1
      exact settles.reached rfl rfl (settles.loggedIn_of_isProtected inside) (.inr rfl)
  | entersLogin changed toLogin =>
      have entry : trace.console.entersLogin .followRoute = true := by
        rw [Console.entersLogin, changed, toLogin]
        rfl
      exact settles.atEntry stamped entry rfl rfl rfl rfl rfl
  | entersScreen changed inside admitted works =>
      obtain ⟨jobs, begins⟩ := works
      refine settles.reached (entersLogin_of_isProtected inside) rfl
        (settles.loggedIn_of_navigator changed inside) (.inl ?_)
      rw [begins.route]
      exact inside
  | turnsAway changed inside refused =>
      exact settles.reached (entersLogin_of_isProtected inside) rfl
        (settles.loggedIn_of_navigator changed inside) (.inr rfl)
  | carries => exact settles.kept rfl rfl rfl (.inl rfl) Iff.rfl
  | @fails index task failure waits =>
      refine settles.kept rfl rfl rfl (.inl rfl) ((hasSuccess_finish_iff _ _ _ _).trans ?_)
      exact or_iff_left fun success => Console.failed_ne_login_true task.job failure success.2
  | concludes waits sent => exact settles.concluded stamped waits sent
  | drops waits stale =>
      exact settles.kept rfl rfl rfl (.inl rfl)
        (Console.hasSuccess_eraseIdx_iff waits (fun success => stale success.1) rfl rfl)
  | @takes index message waits fresh =>
      have same := Console.sameWork_takeIn
        { trace.console with inbox := trace.console.inbox.eraseIdx index } message.result now
      rcases Console.navigator_takeIn
        { trace.console with inbox := trace.console.inbox.eraseIdx index } message.result now with
        ⟨toDashboard, success⟩ | ⟨noSuccess, navigator⟩
      · have loggedIn : LoggedIn trace := by
          by_contra loggedOut
          exact (settles.outside loggedOut).2.2
            ⟨message, List.mem_of_getElem? waits, fresh, success⟩
        exact settles.reached rfl rfl loggedIn (.inr (by rw [toDashboard]; rfl))
      · exact settles.kept rfl rfl same.route navigator
          (Console.hasSuccess_eraseIdx_iff waits (fun success => noSuccess success.2)
            same.epoch same.inbox)

private theorem settles_start (client : Client) (username : Option String) (opening : Moment) :
    Settles (start (Console.openedAtLogin client username opening)) where
  past := fun _ isAccepted => absurd isAccepted List.not_mem_nil
  inside := fun ⟨_, isAccepted, _⟩ => absurd isAccepted List.not_mem_nil
  outside := fun _ => ⟨rfl, fun _ => rfl, fun ⟨_, waits, _⟩ => absurd waits List.not_mem_nil⟩

theorem settles_run (client : Client) (username : Option String) (opening : Moment)
    (steps : List (Moment × Console.Step)) :
    Settles ((start (Console.openedAtLogin client username opening)).run steps) :=
  (run_keeps (fun _ _ _ _ => settles_record)
    (stamped_start client (Session.new .login) username opening)
    (settles_start client username opening) steps).2

end Steps

/-- Once nothing is under way, a screen behind the login is shown exactly if a
login of the present visit was accepted. A credential in the session says less:
it goes with such a screen exactly if it goes with such a login. -/
theorem isProtected_iff_loggedIn (client : Client) (username : Option String) (opening : Moment)
    (steps : List (Moment × Console.Step))
    (quiet : ((Console.openedAtLogin client username opening).run steps).Quiet) :
    let console := (Console.openedAtLogin client username opening).run steps
    let trace := (start (Console.openedAtLogin client username opening)).run steps
    (console.route.isProtected = true ↔ LoggedIn trace) ∧
      ((console.session.isAuthenticated = true → console.route.isProtected = true) ↔
        (console.session.isAuthenticated = true → LoggedIn trace)) := by
  intro console trace
  have settles : Settles trace := settles_run client username opening steps
  have same : trace.console = console := console_run _ steps
  have shown : console.route.isProtected = true ↔ LoggedIn trace := by
    rw [← same]
    refine ⟨settles.loggedIn_of_isProtected, fun loggedIn => ?_⟩
    rcases settles.inside loggedIn with inside | changed | ⟨_, waits, _⟩
    · exact inside
    · rw [same] at changed
      exact absurd (quiet.navigator.symm.trans changed) Bool.false_ne_true
    · rw [same, quiet.inbox] at waits
      exact absurd waits List.not_mem_nil
  exact ⟨shown, imp_congr_right fun _ => shown⟩

/-- The second of two logins is accepted while a request of the first sends the
user back to the login screen. -/
def lostLogin : List (Moment × Console.Step) :=
  Console.twoLogins ++
    [Console.receives 0 401, Console.receives 0 200, Console.follows, Console.delivers 0,
      Console.delivers 0]

/-- The session keeps the credential of that login, and the login screen stays. -/
theorem lostLogin_keeps_credential :
    (Console.atLogin.run lostLogin).Quiet ∧
      (Console.atLogin.run lostLogin).session.credential = some (Credential.encode "ada" "y") ∧
      (Console.atLogin.run lostLogin).route = .login ∧
      ¬ LoggedIn ((start Console.atLogin).run lostLogin) := by
  have quiet : (Console.atLogin.run lostLogin).Quiet := ⟨rfl, rfl, rfl⟩
  refine ⟨quiet, rfl, rfl, fun loggedIn => ?_⟩
  have inside : (Console.atLogin.run lostLogin).route.isProtected = true :=
    (isProtected_iff_loggedIn Console.sampleClient (some "ada") Console.anyTime lostLogin
      quiet).1.mpr loggedIn
  contradiction

end Trace

end EventConsole
