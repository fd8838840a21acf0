import EventConsole.Proofs.Console.Effect

/-!
Contract: how long the credential of an accepted login stays in the session.

Owns: the steps that can end or replace it, and that no others do, whatever
requests and logins of earlier sessions are still under way.
-/

namespace EventConsole.Console

/-! ### A run of two logins -/

/-- Some moment; the runs below do not depend on the time. -/
def anyTime : Moment := ⟨0, ⟨0, 0⟩⟩

def presses (key : Key) : Moment × Step := (anyTime, .key key.press)

def sends (index : Nat) : Moment × Step := (anyTime, .send index)

def receives (index code : Nat) : Moment × Step := (anyTime, .answer index (.status code none))

def delivers (index : Nat) : Moment × Step := (anyTime, .deliver index)

def follows : Moment × Step := (anyTime, .followRoute)

def sampleClient : Client := ⟨"https://siem.test/api"⟩

/-- A console as it opens for a user with a known name. -/
def atLogin : Console := openedAtLogin sampleClient (some "ada") anyTime

theorem reachable_run_atLogin (steps : List (Moment × Step)) : Reachable (atLogin.run steps) :=
  reachable_run_openedAtLogin sampleClient (some "ada") anyTime steps

/-- A login whose request for the statistics is still under way when the user
has logged out and tries another password. -/
def twoLogins : List (Moment × Step) :=
  [presses (.char 'x'), presses .enter, sends 0, receives 0 200, delivers 0, follows, sends 0,
    presses (.char 'L'), follows, presses (.char 'y'), presses .enter, sends 1]

/-! ### Runs without some steps -/

/-- A run none of whose steps is of some kind. -/
def Without (kind : Console → Step → Prop) : Console → List (Moment × Step) → Prop
  | _, [] => True
  | console, (now, step) :: rest => ¬ kind console step ∧ Without kind (console.step now step) rest

/-- What holds at the start of such a run and is kept by all other steps holds at its end. -/
theorem Without.keeps {kind : Console → Step → Prop} {holds : Console → Prop}
    (kept : ∀ console now step, ¬ kind console step → holds console →
      holds (console.step now step))
    {steps : List (Moment × Step)} {console : Console} (run : Without kind console steps)
    (start : holds console) : holds (console.run steps) := by
  induction steps generalizing console with
  | nil => exact start
  | cons head rest inductionHypothesis =>
      obtain ⟨now, step⟩ := head
      exact inductionHypothesis run.2 (kept console now step run.1 start)

/-! ### Credentials of tasks -/

/-- A task after a step was there before, carries nothing, or has just been
given the credential for its job. -/
theorem mem_tasks_effect {console after : Console} {now : Moment} {step : Step} {task : Task}
    (effect : Effect console now step after) (member : task ∈ after.tasks) :
    task ∈ console.tasks ∨ task.carried = none ∨
      ∃ credential, task.carried = some credential ∧
        console.credentialFor task.job = some credential := by
  have begun {before : Console} (works : Works before after) (same : before.tasks = console.tasks) :
      task ∈ console.tasks ∨ task.carried = none := by
    obtain ⟨jobs, begins⟩ := works
    rw [begins.tasks, same, List.mem_append, List.mem_map] at member
    rcases member with before | ⟨job, _, rfl⟩
    · exact .inl before
    · exact .inr rfl
  cases effect with
  | idle => exact .inl member
  | works _ works => exact (begun works rfl).imp_right .inl
  | asks => exact .inl member
  | logsOut => exact .inl member
  | entersLogin => exact .inl member
  | entersScreen _ _ _ works => exact (begun works rfl).imp_right .inl
  | turnsAway => exact .inl member
  | carries waits known =>
      rcases List.mem_or_eq_of_mem_set member with before | rfl
      · exact .inl before
      · exact .inr (.inr ⟨_, rfl, known⟩)
  | fails => exact .inl (List.mem_of_mem_eraseIdx member)
  | concludes => exact .inl (List.mem_of_mem_eraseIdx member)
  | drops => exact .inl member
  -- Taking a result in may only ask for another screen; its tasks begin there.
  | takes =>
      rw [(sameWork_takeIn _ _ _).tasks] at member
      exact .inl member

/-- Every request of a login carries the credential of its user name and password. -/
def LoginsCarryTheirOwn (console : Console) : Prop :=
  ∀ task ∈ console.tasks, ∀ username password credential, task.job = .login username password →
    task.carried = some credential → credential = Credential.encode username password

theorem loginsCarryTheirOwn_step (console : Console) (now : Moment) (step : Step)
    (own : LoginsCarryTheirOwn console) : LoginsCarryTheirOwn (console.step now step) := by
  intro task member username password credential isLogin carries
  rcases mem_tasks_effect (effect_step console now step) member with
    before | unsent | ⟨given, carried, known⟩
  · exact own task before username password credential isLogin carries
  · rw [unsent] at carries
    contradiction
  · rw [isLogin] at known
    rw [carries] at carried
    rw [Option.some.inj carried, ← Option.some.inj known]

theorem loginsCarryTheirOwn_of_reachable {console : Console} (reachable : Reachable console) :
    LoginsCarryTheirOwn console := by
  refine reachable.keeps (fun client session username opening => ?opened) loginsCarryTheirOwn_step
  intro task member username' password credential isLogin carries
  rcases opened_cases (Console.new client session username) opening with
    ⟨_, isReset⟩ | ⟨_, _, begins⟩ | ⟨_, away⟩
  · rw [isReset] at member
    exact absurd member List.not_mem_nil
  · rw [begins.tasks] at member
    have begun := (List.mem_append.mp member).resolve_left List.not_mem_nil
    obtain ⟨job, _, rfl⟩ := List.mem_map.mp begun
    contradiction
  · rw [away] at member
    exact absurd member List.not_mem_nil

/-- Requests other than logins carry some credential, or were sent before. -/
def CarriesOrOld (credential : Credential) (old : List Task) (console : Console) : Prop :=
  ∀ task ∈ console.tasks, task.job.isLogin = false → ∀ carried, task.carried = some carried →
    carried = credential ∨ task ∈ old

/-! ### The session -/

/-- Steps that write the session: a logout, an accepted login, a refusal of a request. -/
def writesSession (console : Console) : Step → Prop
  | .key press => console.logsOut press = true
  | .answer index answer =>
      ∃ task credential, console.tasks[index]? = some task ∧ task.carried = some credential ∧
        (task.job.isLogin = true ∧ answer.accepts = true ∨
          task.job.isLogin = false ∧ answer.refuses = true)
  | _ => False

private theorem credential_of_not_writesSession {console after : Console} {now : Moment}
    {step : Step} (effect : Effect console now step after) (silent : ¬ console.writesSession step) :
    after.session.credential = console.session.credential := by
  cases effect with
  | idle => rfl
  | works _ works =>
      obtain ⟨_, begins⟩ := works
      rw [begins.session]
  | asks => rfl
  | logsOut leaves => exact absurd leaves silent
  | entersLogin => rfl
  | entersScreen _ _ _ works =>
      obtain ⟨_, begins⟩ := works
      rw [begins.session]
      rfl
  | turnsAway => rfl
  | carries => rfl
  | fails => rfl
  | @concludes _ answer task credential waits sent =>
      change (conclude console.session task.job credential answer).2.credential = _
      rw [conclude_session]
      cases isLogin : task.job.isLogin with
      | true =>
          cases accepts : answer.accepts with
          | true => exact absurd ⟨task, credential, waits, sent, .inl ⟨isLogin, accepts⟩⟩ silent
          | false => rfl
      | false =>
          cases refuses : answer.refuses with
          | true => exact absurd ⟨task, credential, waits, sent, .inr ⟨isLogin, refuses⟩⟩ silent
          | false => rfl
  | drops => rfl
  | takes => exact (sameWork_takeIn _ _ _).credential

/-! ### An accepted login -/

theorem answer_of_waits {console : Console} {index : Nat} {task : Task} {credential : Credential}
    (waits : console.tasks[index]? = some task) (sent : task.carried = some credential)
    (answer : Answer) :
    console.answer index answer =
      { console with
          session := (conclude console.session task.job credential answer).2 }.finish index task
        (conclude console.session task.job credential answer).1 := by
  simp only [Console.answer, waits, sent]

/-- Steps that may end or replace a credential: a logout, the acceptance of some
login, and the refusal of a request that carries the credential or is an old one. -/
def disturbs (credential : Credential) (old : List Task) (console : Console) : Step → Prop
  | .key press => console.logsOut press = true
  | .answer index answer =>
      ∃ task carried, console.tasks[index]? = some task ∧ task.carried = some carried ∧
        (task.job.isLogin = true ∧ answer.accepts = true ∨
          task.job.isLogin = false ∧ answer.refuses = true ∧
            (carried = credential ∨ task ∈ old))
  | _ => False

/-- The session holds a credential, and all but old requests carry it. -/
def Holds (credential : Credential) (old : List Task) (console : Console) : Prop :=
  console.session.credential = some credential ∧ CarriesOrOld credential old console

private theorem disturbs_of_writesSession {credential : Credential} {old : List Task}
    {console : Console}
    {step : Step} (holds : Holds credential old console) (writes : console.writesSession step) :
    console.disturbs credential old step := by
  cases step with
  | key press => exact writes
  | answer index answer =>
      obtain ⟨task, carried, waits, sent, accepted | ⟨noLogin, refused⟩⟩ := writes
      · exact ⟨task, carried, waits, sent, .inl accepted⟩
      · exact ⟨task, carried, waits, sent, .inr ⟨noLogin, refused,
          holds.2 task (List.mem_of_getElem? waits) noLogin carried sent⟩⟩
  | _ => exact writes.elim

theorem holds_step {credential : Credential} {old : List Task} {console : Console} {now : Moment}
    {step : Step} (undisturbed : ¬ console.disturbs credential old step)
    (holds : Holds credential old console) :
    Holds credential old (console.step now step) := by
  have effect := effect_step console now step
  refine ⟨?credential, ?carries⟩
  case credential =>
    rw [credential_of_not_writesSession effect fun writes =>
      undisturbed (disturbs_of_writesSession holds writes)]
    exact holds.1
  case carries =>
    -- A request sent by this step takes the credential from the session, which holds ours.
    intro task member noLogin carried sent
    rcases mem_tasks_effect effect member with before | unsent | ⟨given, isGiven, known⟩
    · exact holds.2 task before noLogin carried sent
    · rw [unsent] at sent
      contradiction
    · have fromSession : console.credentialFor task.job = console.session.credential := by
        cases job : task.job with
        | login => simp [job, Job.isLogin] at noLogin
        | events => rfl
        | stats => rfl
      rw [fromSession, holds.1] at known
      rw [sent] at isGiven
      exact .inl ((Option.some.inj isGiven).trans (Option.some.inj known).symm)

/-- Each of these steps removes the credential, or puts that of the accepted login in its place. -/
theorem credential_of_disturbs {credential : Credential} {old : List Task} {console : Console}
    {step : Step} (now : Moment) (disturbed : console.disturbs credential old step) :
    (console.step now step).session.credential = none ∨
      ∃ task ∈ console.tasks, task.job.isLogin = true ∧
        (console.step now step).session.credential = task.carried := by
  cases step with
  | key press =>
      have loggedOut : console.step now (.key press) = console.logout :=
        handleKey_of_logsOut console now disturbed
      rw [loggedOut]
      exact .inl rfl
  | answer index answer =>
      obtain ⟨task, carried, waits, sent, effect⟩ := disturbed
      have concluded : (console.step now (.answer index answer)).session =
          (conclude console.session task.job carried answer).2 := by
        change (console.answer index answer).session = _
        rw [answer_of_waits waits sent]
        rfl
      rw [concluded, conclude_session]
      rcases effect with ⟨isLogin, accepts⟩ | ⟨noLogin, refuses, _⟩
      · rw [isLogin, accepts]
        exact .inr ⟨task, List.mem_of_getElem? waits, isLogin, sent.symm⟩
      · rw [noLogin, refuses]
        exact .inl rfl
  | _ => exact disturbed.elim

/-- From its acceptance on, a login's credential stays in the session until a
logout, another accepted login, or the refusal of a request that carried it or
was older; each of these replaces or removes it. -/
theorem session_holds_accepted {console : Console} {index epoch : Nat} {username password : String}
    {carried : Credential} {answer : Answer} {steps : List (Moment × Step)}
    (reachable : Reachable console)
    (waits : console.tasks[index]? = some ⟨epoch, .login username password, some carried⟩)
    (accepts : answer.accepts = true)
    (undisturbed : Without (disturbs (Credential.encode username password) console.tasks)
      (console.answer index answer) steps) :
    ((console.answer index answer).run steps).session.credential =
        some (Credential.encode username password) ∧
      ∀ now step,
        ((console.answer index answer).run steps).disturbs (Credential.encode username password)
            console.tasks step →
          (((console.answer index answer).run steps).step now step).session.credential = none ∨
            ∃ task ∈ ((console.answer index answer).run steps).tasks,
              task.job.isLogin = true ∧
                (((console.answer index answer).run steps).step now step).session.credential =
                  task.carried := by
  have own : carried = Credential.encode username password :=
    loginsCarryTheirOwn_of_reachable reachable _ (List.mem_of_getElem? waits) username password
      carried rfl rfl
  have start : Holds (Credential.encode username password) console.tasks
      (console.answer index answer) := by
    rw [answer_of_waits waits rfl]
    refine ⟨?_, fun task member _ _ _ => .inr (List.mem_of_mem_eraseIdx member)⟩
    change (conclude _ _ _ _).2.credential = _
    rw [conclude_session, accepts, own]
    rfl
  have kept : Holds (Credential.encode username password) console.tasks
      ((console.answer index answer).run steps) :=
    undisturbed.keeps (fun _ _ _ silent holds => holds_step silent holds) start
  exact ⟨kept.1, fun now _ disturbed => credential_of_disturbs now disturbed⟩

/-- The second login survives its delivery, the way to the dashboard, and an
old request that fails for another reason. -/
theorem session_holds_secondLogin :
    (atLogin.run twoLogins).tasks[1]? =
        some ⟨2, .login "ada" "y", some (Credential.encode "ada" "y")⟩ ∧
      (((atLogin.run twoLogins).answer 1 (.status 200 none)).run
          [delivers 0, follows, receives 0 500]).session.credential =
        some (Credential.encode "ada" "y") := by
  refine ⟨rfl, (session_holds_accepted (reachable_run_atLogin twoLogins) rfl rfl ?_).1⟩
  refine ⟨id, id, ?_, trivial⟩
  rintro ⟨task, carried, waits, _, ⟨isLogin, _⟩ | ⟨_, refused, _⟩⟩
  · cases waits
    contradiction
  · contradiction

/-- The credential of a login that was accepted and taken in stays in the session
until some step of a kind. -/
def SafeUntil (ends : Credential → Console → Step → Prop) : Prop :=
  ∀ (console : Console) (index : Nat) (username password : String) (carried : Credential)
    (answer : Answer) (now : Moment) (steps : List (Moment × Step)), Reachable console →
    console.tasks[index]? = some ⟨console.epoch, .login username password, some carried⟩ →
    answer.accepts = true →
    Without (ends carried) ((console.answer index answer).deliver console.inbox.length now) steps →
    (((console.answer index answer).deliver console.inbox.length now).run
      steps).session.credential = some carried

/-- A logout, or the refusal of a request that carries the credential. -/
def endsOwn (credential : Credential) (console : Console) : Step → Prop
  | .key press => console.logsOut press = true
  | .answer index answer =>
      ∃ task, console.tasks[index]? = some task ∧ task.carried = some credential ∧
        task.job.isLogin = false ∧ answer.refuses = true
  | _ => False

/-- A logout, or the refusal of any request. -/
def endsAny (_ : Credential) (console : Console) : Step → Prop
  | .key press => console.logsOut press = true
  | .answer _ answer => answer.refuses = true
  | _ => False

/-- The request of the first login sends the user back while the second one is
under way; the user tries once more. -/
def threeLogins : List (Moment × Step) :=
  twoLogins ++ [receives 0 401, follows, presses (.char 'z'), presses .enter, sends 1]

/-- A session is not safe from older ones: the refusal of a request of an older
login ends it, and the late acceptance of an older login takes its place. -/
theorem not_safe_from_older_sessions : ¬ SafeUntil endsOwn ∧ ¬ SafeUntil endsAny := by
  constructor
  · intro safe
    have kept := safe (atLogin.run twoLogins) 1 "ada" "y" (Credential.encode "ada" "y")
      (.status 200 none) anyTime [receives 0 401] (reachable_run_atLogin twoLogins) rfl rfl
    refine absurd (kept ⟨?_, trivial⟩) (by decide)
    rintro ⟨task, waits, carried, _⟩
    cases waits
    exact absurd carried (by decide)
  · intro safe
    have kept := safe (atLogin.run threeLogins) 1 "ada" "z" (Credential.encode "ada" "z")
      (.status 200 none) anyTime [follows, receives 0 200] (reachable_run_atLogin threeLogins)
      rfl rfl
    exact absurd (kept ⟨id, Bool.noConfusion, trivial⟩) (by decide)

end EventConsole.Console
