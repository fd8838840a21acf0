import EventConsole.Proofs.Console.Effect
import Mathlib.Data.List.Forall2
import Mathlib.Data.List.InsertIdx

/-!
Contract: a run of the console with a record of when its tasks were started.

The record is read off the steps and never read by them. Its time is the number
of steps.

Owns: the record, that it does not disturb the run, and that the epoch of a task
tells exactly whether it was started after the last login screen.
-/

namespace EventConsole

/-- A console and the record of the run that led to it. -/
structure Trace where
  console : Console
  /-- Number of steps. -/
  clock : Nat
  /-- Number of steps up to the last entry of the login screen. -/
  entered : Nat
  /-- For each task that has no result yet, the step that started it. -/
  taskStarts : List Nat
  /-- For each message that waits, the step that started its task. -/
  resultStarts : List Nat
  /-- All results delivered, with the steps that started their tasks. -/
  delivered : List (Nat × TaskResult)
  /-- For each login that the server accepted, the step that started it. -/
  accepted : List Nat

namespace Console

/-- Whether a step enters the login screen. -/
def entersLogin (console : Console) : Step → Bool
  | .followRoute =>
      console.session.navigator.changed && !console.session.navigator.route.isProtected
  | _ => false

/-- The task that a step ends. -/
def endedTask (before after : Console) : Step → Option Nat
  | .send index | .answer index _ =>
      if after.tasks.length < before.tasks.length then some index else none
  | _ => none

/-- The message that a step delivers. -/
def deliveredMessage : Step → Option Nat
  | .deliver index => some index
  | _ => none

/-- The login that a step sees accepted. -/
def acceptedLogin (console : Console) : Step → Option Nat
  | .answer index answer =>
      if (console.tasks[index]?.any fun task => task.job.isLogin && task.carried.isSome) &&
        answer.accepts then some index else none
  | _ => none

end Console

namespace Trace

/-- A record that starts with an opened console. -/
def start (console : Console) : Trace where
  console := console
  clock := 0
  entered := 0
  taskStarts := List.replicate console.tasks.length 0
  resultStarts := []
  delivered := []
  accepted := []

/-- Records a step that led to a console. -/
def record (trace : Trace) (step : Console.Step) (after : Console) : Trace :=
  let ended := trace.console.endedTask after step
  { console := after
    clock := trace.clock + 1
    entered := if trace.console.entersLogin step then trace.clock + 1 else trace.entered
    taskStarts :=
      match ended with
      | some index => trace.taskStarts.eraseIdx index
      | none =>
          trace.taskStarts ++
            List.replicate (after.tasks.length - trace.console.tasks.length) trace.clock
    resultStarts :=
      match Console.deliveredMessage step with
      | some index => trace.resultStarts.eraseIdx index
      | none => trace.resultStarts ++ (ended.bind fun index => trace.taskStarts[index]?).toList
    delivered :=
      trace.delivered ++ ((Console.deliveredMessage step).bind fun index =>
        (trace.resultStarts.zip (trace.console.inbox.map Message.result))[index]?).toList
    accepted :=
      trace.accepted ++
        ((trace.console.acceptedLogin step).bind fun index => trace.taskStarts[index]?).toList }

def step (trace : Trace) (now : Moment) (step : Console.Step) : Trace :=
  trace.record step (trace.console.step now step)

def run (trace : Trace) : List (Moment × Console.Step) → Trace
  | [] => trace
  | (now, step) :: rest => (trace.step now step).run rest

/-- The record does not disturb the run. -/
theorem console_run (trace : Trace) (steps : List (Moment × Console.Step)) :
    (trace.run steps).console = trace.console.run steps := by
  induction steps generalizing trace with
  | nil => rfl
  | cons head rest inductionHypothesis => exact inductionHypothesis _

/-! ### What is recorded -/

section Recorded

variable {trace : Trace} {step : Console.Step} {after : Console}

/-- A step that ends no task and delivers no message. -/
theorem record_of_begun (begun : Nat)
    (count : after.tasks.length = trace.console.tasks.length + begun)
    (noMessage : Console.deliveredMessage step = none)
    (noLogin : trace.console.acceptedLogin step = none) :
    trace.record step after =
      { trace with
        console := after
        clock := trace.clock + 1
        entered := if trace.console.entersLogin step then trace.clock + 1 else trace.entered
        taskStarts := trace.taskStarts ++ List.replicate begun trace.clock } := by
  have noEnd : trace.console.endedTask after step = none := by
    have notFewer : ¬ after.tasks.length < trace.console.tasks.length := by omega
    cases step with
    | send | answer => exact if_neg notFewer
    | _ => rfl
  simp only [record, noEnd, noMessage, noLogin, count, Nat.add_sub_cancel_left, Option.bind_none,
    Option.toList_none, List.append_nil]

/-- A step that ends a task. -/
theorem record_of_ended {index begun : Nat}
    (ended : trace.console.endedTask after step = some index)
    (known : trace.taskStarts[index]? = some begun) :
    trace.record step after =
      { trace with
        console := after
        clock := trace.clock + 1
        taskStarts := trace.taskStarts.eraseIdx index
        resultStarts := trace.resultStarts ++ [begun]
        accepted := trace.accepted ++
          if (trace.console.acceptedLogin step).isSome then [begun] else [] } := by
  cases step with
  | send other =>
      simp [record, ended, known, Console.deliveredMessage, Console.acceptedLogin,
        Console.entersLogin]
  | answer other answer =>
      have same : other = index := Option.some.inj (Option.ite_none_right_eq_some.mp ended).2
      subst same
      cases accepted : trace.console.acceptedLogin (.answer other answer) with
      | none => simp [record, ended, known, Console.deliveredMessage, Console.entersLogin, accepted]
      | some index =>
          have same : other = index :=
            Option.some.inj (Option.ite_none_right_eq_some.mp accepted).2
          subst same
          simp [record, ended, known, Console.deliveredMessage, Console.entersLogin, accepted]
  | _ => contradiction

theorem zip_getElem?_of_waits {index begun : Nat} {message : Message}
    (waits : trace.console.inbox[index]? = some message)
    (known : trace.resultStarts[index]? = some begun) :
    (trace.resultStarts.zip (trace.console.inbox.map Message.result))[index]? =
      some (begun, message.result) := by
  have result : (trace.console.inbox.map Message.result)[index]? = some message.result := by
    rw [List.getElem?_map, waits, Option.map_some]
  exact List.getElem?_zip_eq_some.mpr ⟨known, result⟩

/-- A step that delivers a message. -/
theorem record_of_delivered {index begun : Nat} {message : Message}
    (sameTasks : after.tasks = trace.console.tasks)
    (waits : trace.console.inbox[index]? = some message)
    (known : trace.resultStarts[index]? = some begun) :
    trace.record (.deliver index) after =
      { trace with
        console := after
        clock := trace.clock + 1
        resultStarts := trace.resultStarts.eraseIdx index
        delivered := trace.delivered ++ [(begun, message.result)] } := by
  simp [record, Console.endedTask, Console.deliveredMessage, Console.acceptedLogin,
    Console.entersLogin, sameTasks, zip_getElem?_of_waits waits known]

theorem entersLogin_of_isIdle (idle : trace.console.isIdle step = true) :
    trace.console.entersLogin step = false := by
  cases step with
  | followRoute =>
      rw [Console.isIdle, Bool.not_eq_true'] at idle
      rw [Console.entersLogin, idle, Bool.false_and]
  | _ => rfl

theorem acceptedLogin_of_isIdle (idle : trace.console.isIdle step = true) :
    trace.console.acceptedLogin step = none := by
  cases step with
  | answer index answer =>
      rw [Console.isIdle, Option.isNone_iff_eq_none] at idle
      cases waits : trace.console.tasks[index]? with
      | none => simp [Console.acceptedLogin, waits]
      | some task =>
          rw [waits, Option.bind_some] at idle
          simp [Console.acceptedLogin, waits, idle]
  | _ => rfl

/-- A step that finds nothing to do. -/
theorem record_of_idle (idle : trace.console.isIdle step = true)
    (paired : trace.resultStarts.length = trace.console.inbox.length) :
    trace.record step trace.console = { trace with clock := trace.clock + 1 } := by
  cases step with
  | followRoute =>
      rw [record_of_begun 0 rfl rfl rfl, entersLogin_of_isIdle idle]
      simp
  | send index =>
      rw [record_of_begun 0 rfl rfl rfl]
      simp [Console.entersLogin]
  | answer index answer =>
      rw [record_of_begun 0 rfl rfl (acceptedLogin_of_isIdle idle)]
      simp [Console.entersLogin]
  | deliver index =>
      have beyond : trace.console.inbox.length ≤ index := by
        rwa [Console.isIdle, Option.isNone_iff_eq_none, List.getElem?_eq_none_iff] at idle
      have noEntry :
          (trace.resultStarts.zip (trace.console.inbox.map Message.result))[index]? = none := by
        rw [List.getElem?_eq_none_iff, List.length_zip, List.length_map, paired, Nat.min_self]
        exact beyond
      simp [record, Console.endedTask, Console.deliveredMessage, Console.acceptedLogin,
        Console.entersLogin, List.eraseIdx_of_length_le (paired ▸ beyond), noEntry]
  | _ => contradiction

end Recorded

/-! ### Epochs and starts -/

/-- An epoch is not later than the present one, and it is the present one
exactly when the step came after the last entry of the login screen. -/
structure Fits (clock entered present epoch start : Nat) : Prop where
  past : start ≤ clock
  notLater : epoch ≤ present
  fresh_iff : epoch = present ↔ entered ≤ start

/-- The starts that are recorded fit the epochs of tasks and messages. -/
structure Stamped (trace : Trace) : Prop where
  entered : trace.entered ≤ trace.clock
  tasks : List.Forall₂ (Fits trace.clock trace.entered trace.console.epoch)
    (trace.console.tasks.map Task.epoch) trace.taskStarts
  inbox : List.Forall₂ (Fits trace.clock trace.entered trace.console.epoch)
    (trace.console.inbox.map Message.epoch) trace.resultStarts

private theorem forall₂_eraseIdx {α β : Type} {relation : α → β → Prop} {first : List α}
    {second : List β} (related : List.Forall₂ relation first second) (index : Nat) :
    List.Forall₂ relation (first.eraseIdx index) (second.eraseIdx index) := by
  induction related generalizing index with
  | nil => exact .nil
  | cons head rest inductionHypothesis =>
      cases index with
      | zero => exact rest
      | succ index => exact .cons head (inductionHypothesis index)

theorem exists_of_forall₂ {α β : Type} {relation : α → β → Prop} {first : List α}
    {second : List β} {index : Nat} {item : α} (related : List.Forall₂ relation first second)
    (found : first[index]? = some item) :
    ∃ other, second[index]? = some other ∧ relation item other := by
  obtain ⟨inFirst, rfl⟩ := List.getElem?_eq_some_iff.mp found
  have inSecond : index < second.length := related.length_eq ▸ inFirst
  exact ⟨second[index], List.getElem?_eq_getElem inSecond, related.get inFirst inSecond⟩

private theorem forall₂_replicate {α β : Type} {relation : α → β → Prop} {item : α} {other : β}
    (related : relation item other) (count : Nat) :
    List.Forall₂ relation (List.replicate count item) (List.replicate count other) := by
  induction count with
  | zero => exact .nil
  | succ count inductionHypothesis => exact .cons related inductionHypothesis

section Fits

variable {clock entered present epoch start : Nat}

theorem Fits.later (fits : Fits clock entered present epoch start) :
    Fits (clock + 1) entered present epoch start :=
  ⟨Nat.le_succ_of_le fits.past, fits.notLater, fits.fresh_iff⟩

/-- Nothing that was started before an entry of the login screen is fresh after it. -/
theorem Fits.afterEntry (fits : Fits clock entered present epoch start) :
    Fits (clock + 1) (clock + 1) (present + 1) epoch start := by
  have past := fits.past
  have notLater := fits.notLater
  exact ⟨by omega, by omega, by omega⟩

theorem Fits.begun (order : entered ≤ clock) : Fits (clock + 1) entered present present clock :=
  ⟨Nat.le_succ clock, Nat.le_refl present, ⟨fun _ => order, fun _ => rfl⟩⟩

end Fits

section Stamped

variable {trace : Trace} {step : Console.Step} {after : Console}

theorem Stamped.later (stamped : Stamped trace) :
    Stamped { trace with clock := trace.clock + 1 } where
  entered := Nat.le_succ_of_le stamped.entered
  tasks := stamped.tasks.imp fun _ _ => Fits.later
  inbox := stamped.inbox.imp fun _ _ => Fits.later

theorem Stamped.begun {n : Nat} (stamped : Stamped trace)
    (noMessage : Console.deliveredMessage step = none)
    (noLogin : trace.console.acceptedLogin step = none)
    (noEntry : trace.console.entersLogin step = false)
    (epoch : after.epoch = trace.console.epoch) (inbox : after.inbox = trace.console.inbox)
    (tasks : after.tasks.map Task.epoch =
      trace.console.tasks.map Task.epoch ++ List.replicate n trace.console.epoch) :
    Stamped (trace.record step after) := by
  have count : after.tasks.length = trace.console.tasks.length + n := by
    simpa using congrArg List.length tasks
  rw [record_of_begun n count noMessage noLogin, noEntry]
  refine ⟨Nat.le_succ_of_le stamped.entered, ?tasks, ?inbox⟩
  case tasks =>
    rw [tasks, epoch]
    exact List.rel_append (stamped.tasks.imp fun _ _ => Fits.later)
      (forall₂_replicate (.begun stamped.entered) n)
  case inbox =>
    rw [inbox, epoch]
    exact stamped.inbox.imp fun _ _ => Fits.later

theorem Stamped.afterEntry (stamped : Stamped trace)
    (noMessage : Console.deliveredMessage step = none)
    (noLogin : trace.console.acceptedLogin step = none)
    (entry : trace.console.entersLogin step = true)
    (epoch : after.epoch = trace.console.epoch + 1) (inbox : after.inbox = trace.console.inbox)
    (tasks : after.tasks = trace.console.tasks) : Stamped (trace.record step after) := by
  have count : after.tasks.length = trace.console.tasks.length + 0 := by rw [tasks]; rfl
  rw [record_of_begun 0 count noMessage noLogin, entry, List.replicate_zero, List.append_nil]
  refine ⟨Nat.le_refl _, ?tasks, ?inbox⟩
  case tasks =>
    rw [tasks, epoch]
    exact stamped.tasks.imp fun _ _ => Fits.afterEntry
  case inbox =>
    rw [inbox, epoch]
    exact stamped.inbox.imp fun _ _ => Fits.afterEntry

theorem Stamped.ended {index : Nat} {task : Task} {result : TaskResult} (stamped : Stamped trace)
    (waits : trace.console.tasks[index]? = some task)
    (epoch : after.epoch = trace.console.epoch)
    (tasks : after.tasks = trace.console.tasks.eraseIdx index)
    (inbox : after.inbox = trace.console.inbox ++ [⟨task.epoch, result⟩])
    (ended : trace.console.endedTask after step = some index) :
    Stamped (trace.record step after) := by
  have waitsEpoch : (trace.console.tasks.map Task.epoch)[index]? = some task.epoch := by
    rw [List.getElem?_map, waits, Option.map_some]
  obtain ⟨begun, known, fits⟩ := exists_of_forall₂ stamped.tasks waitsEpoch
  rw [record_of_ended ended known]
  refine ⟨Nat.le_succ_of_le stamped.entered, ?tasks, ?inbox⟩
  case tasks =>
    rw [tasks, epoch, ← List.eraseIdx_map]
    exact forall₂_eraseIdx (stamped.tasks.imp fun _ _ => Fits.later) index
  case inbox =>
    rw [inbox, epoch, List.map_append]
    exact List.rel_append (stamped.inbox.imp fun _ _ => Fits.later) (.cons fits.later .nil)

theorem map_epoch_of_waits {index : Nat} {message : Message}
    (waits : trace.console.inbox[index]? = some message) :
    (trace.console.inbox.map Message.epoch)[index]? = some message.epoch := by
  rw [List.getElem?_map, waits, Option.map_some]

theorem Stamped.delivered {index : Nat} {message : Message} (stamped : Stamped trace)
    (waits : trace.console.inbox[index]? = some message)
    (epoch : after.epoch = trace.console.epoch) (tasks : after.tasks = trace.console.tasks)
    (inbox : after.inbox = trace.console.inbox.eraseIdx index) :
    Stamped (trace.record (.deliver index) after) := by
  obtain ⟨begun, known, _⟩ := exists_of_forall₂ stamped.inbox (map_epoch_of_waits waits)
  rw [record_of_delivered tasks waits known]
  refine ⟨Nat.le_succ_of_le stamped.entered, ?tasks, ?inbox⟩
  case tasks =>
    rw [tasks, epoch]
    exact stamped.tasks.imp fun _ _ => Fits.later
  case inbox =>
    rw [inbox, epoch, ← List.eraseIdx_map]
    exact forall₂_eraseIdx (stamped.inbox.imp fun _ _ => Fits.later) index

private theorem Stamped.resultStarts_length (stamped : Stamped trace) :
    trace.resultStarts.length = trace.console.inbox.length := by
  rw [← stamped.inbox.length_eq, List.length_map]

theorem endedTask_of_waits {before : Console} {index : Nat} {task : Task}
    (waits : before.tasks[index]? = some task) (tasks : after.tasks = before.tasks.eraseIdx index) :
    after.tasks.length < before.tasks.length := by
  have inTasks : index < before.tasks.length := (List.getElem?_eq_some_iff.mp waits).1
  rw [tasks, List.length_eraseIdx_of_lt inTasks]
  omega

/-- Local steps are recorded by the tasks that they begin alone. -/
theorem quiet_of_isLocal (isLocal : trace.console.isLocal step = true) :
    Console.deliveredMessage step = none ∧ trace.console.acceptedLogin step = none ∧
      trace.console.entersLogin step = false := by
  cases step with
  | key | mouse | tick | draw => exact ⟨rfl, rfl, rfl⟩
  | _ => contradiction

theorem entersLogin_of_isProtected
    (inside : trace.console.session.navigator.route.isProtected = true) :
    trace.console.entersLogin .followRoute = false := by
  rw [Console.entersLogin, inside, Bool.not_true, Bool.and_false]

private theorem stamped_record {now : Moment} (effect : Console.Effect trace.console now step after)
    (stamped : Stamped trace) : Stamped (trace.record step after) := by
  cases effect with
  | idle idle =>
      rw [record_of_idle idle stamped.resultStarts_length]
      exact stamped.later
  | works isLocal works =>
      obtain ⟨jobs, begins⟩ := works
      obtain ⟨noMessage, noLogin, noEntry⟩ := quiet_of_isLocal isLocal
      exact stamped.begun noMessage noLogin noEntry begins.epoch begins.inbox begins.map_epoch
  | asks =>
      exact stamped.begun (n := 0) rfl rfl rfl rfl rfl (List.append_nil _).symm
  | logsOut => exact stamped.begun (n := 0) rfl rfl rfl rfl rfl (List.append_nil _).symm
  | entersLogin changed toLogin =>
      have entry : trace.console.entersLogin .followRoute = true := by
        rw [Console.entersLogin, changed, toLogin]
        rfl
      exact stamped.afterEntry rfl rfl entry rfl rfl rfl
  | entersScreen changed inside admitted works =>
      obtain ⟨jobs, begins⟩ := works
      exact stamped.begun rfl rfl (entersLogin_of_isProtected inside) begins.epoch begins.inbox
        begins.map_epoch
  | turnsAway changed inside refused =>
      exact stamped.begun (n := 0) rfl rfl (entersLogin_of_isProtected inside) rfl rfl
        (List.append_nil _).symm
  | @carries index task credential waits known =>
      have sameEpochs : (trace.console.tasks.set index { task with carried := some credential }).map
          Task.epoch = trace.console.tasks.map Task.epoch :=
        Console.map_set_of_same waits rfl
      exact stamped.begun (n := 0) rfl rfl rfl rfl rfl
        (sameEpochs.trans (List.append_nil _).symm)
  | fails waits =>
      exact stamped.ended waits rfl rfl rfl (if_pos (endedTask_of_waits waits rfl))
  | concludes waits sent =>
      exact stamped.ended waits rfl rfl rfl (if_pos (endedTask_of_waits waits rfl))
  | drops waits => exact stamped.delivered waits rfl rfl rfl
  | @takes index message waits =>
      have same := Console.sameWork_takeIn
        { trace.console with inbox := trace.console.inbox.eraseIdx index } message.result now
      exact stamped.delivered waits same.epoch same.tasks same.inbox

theorem stamped_start (client : Client) (session : Session) (username : Option String)
    (opening : Moment) :
    Stamped (start ((Console.new client session username).opened opening)) := by
  have fits : Fits 0 0 0 0 0 := ⟨Nat.le_refl 0, Nat.le_refl 0, by simp⟩
  rcases Console.opened_cases (Console.new client session username) opening with
    ⟨_, isReset⟩ | ⟨_, jobs, begins⟩ | ⟨_, away⟩
  · rw [isReset]
    exact ⟨Nat.le_refl 0, .nil, .nil⟩
  · have epochs : ((Console.new client session username).opened opening).tasks.map Task.epoch =
        List.replicate jobs.length 0 := begins.map_epoch
    have count : ((Console.new client session username).opened opening).tasks.length =
        jobs.length := by
      simpa using congrArg List.length epochs
    refine ⟨Nat.le_refl 0, ?tasks, ?inbox⟩
    case tasks =>
      simp only [start, epochs, begins.epoch, count]
      exact forall₂_replicate fits jobs.length
    case inbox =>
      simp only [start, begins.inbox]
      exact .nil
  · rw [away]
    exact ⟨Nat.le_refl 0, .nil, .nil⟩

/-- What the recording of every effect keeps of a stamped record, a run keeps. -/
theorem run_keeps {holds : Trace → Prop}
    (kept : ∀ trace now step after, Console.Effect trace.console now step after →
      Stamped trace → holds trace → holds (trace.record step after))
    {trace : Trace} (stamped : Stamped trace) (start : holds trace)
    (steps : List (Moment × Console.Step)) :
    Stamped (trace.run steps) ∧ holds (trace.run steps) := by
  induction steps generalizing trace with
  | nil => exact ⟨stamped, start⟩
  | cons head rest inductionHypothesis =>
      obtain ⟨now, step⟩ := head
      have effect := Console.effect_step trace.console now step
      exact inductionHypothesis (stamped_record effect stamped)
        (kept trace now step _ effect stamped start)

end Stamped

end Trace

end EventConsole
