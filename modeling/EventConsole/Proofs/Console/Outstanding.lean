import EventConsole.Proofs.Console.Credential
import Mathlib.Data.List.Count
import Mathlib.Data.List.Perm.Basic

/-!
Contract: the flags and the count of the screens say exactly what is outstanding.

A task is outstanding from its start until its result is taken in. What was
started before the last login screen counts for nothing, since nobody waits for
its result.

Owns: tickets, which a task hands on to its result; that over all runs as many
are open as the screens say; and that no count goes below zero.
-/

namespace EventConsole

def TaskResult.kind : TaskResult → JobKind
  | .login _ => .login
  | .events _ => .events
  | .stats _ => .stats

/-- What a task has in common with its result. -/
structure Ticket where
  epoch : Nat
  kind : JobKind
deriving DecidableEq, Repr

def Task.ticket (task : Task) : Ticket := ⟨task.epoch, task.job.kind⟩

def Message.ticket (message : Message) : Ticket := ⟨message.epoch, message.result.kind⟩

private theorem perm_eraseIdx {α : Type} {items : List α} {index : Nat} {item : α}
    (isItem : items[index]? = some item) : (item :: items.eraseIdx index).Perm items := by
  obtain ⟨inItems, rfl⟩ := List.getElem?_eq_some_iff.mp isItem
  exact List.getElem_cons_eraseIdx_perm inItems

private theorem Dashboard.outstanding_finishRefresh (dashboard : Dashboard)
    (outcome : Except Failure StatsSnapshot) (now : Time.Instant) :
    (dashboard.finishRefresh outcome now).outstanding = dashboard.outstanding - 1 := by
  cases outcome <;> rfl

namespace Console

/-- The tickets of all tasks whose results were not taken in yet. -/
def tickets (console : Console) : List Ticket :=
  console.tasks.map Task.ticket ++ console.inbox.map Message.ticket

/-- The number of tasks of a kind that were started in the present epoch and
whose results were not taken in yet. -/
def outstanding (console : Console) (kind : JobKind) : Nat :=
  console.tickets.count ⟨console.epoch, kind⟩

/-! ### Results -/

theorem kind_failed (job : Job) (failure : Failure) : (failed job failure).kind = job.kind := by
  cases job <;> rfl

private theorem kind_conclude (session : Session) (job : Job) (credential : Credential)
    (answer : Answer) : (conclude session job credential answer).1.kind = job.kind := by
  cases job with
  | login username password =>
      unfold conclude
      dsimp only
      split <;> rfl
  | events fetch => rfl
  | stats => rfl

/-- A flag that is cleared counts one less, if it was set. -/
theorem toNat_false_eq (flag : Bool) : false.toNat = flag.toNat - 1 := by cases flag <;> rfl

/-- To take in a result ends one task of its kind. -/
theorem busy_takeIn (console : Console) (result : TaskResult) (now : Moment) (kind : JobKind) :
    (console.takeIn result now).busy kind =
      if result.kind = kind then console.busy kind - 1 else console.busy kind := by
  cases kind with
  | login =>
      rw [busy, pending_takeIn]
      cases result with
      | login accepted => exact toNat_false_eq _
      | events outcome | stats outcome => rfl
  | events =>
      rw [busy, events_takeIn]
      cases result with
      | events outcome =>
          dsimp only
          rw [EventBrowser.loading_finishLoad]
          exact toNat_false_eq _
      | login accepted | stats outcome => rfl
  | stats =>
      rw [busy, dashboard_takeIn]
      cases result with
      | stats outcome => exact Dashboard.outstanding_finishRefresh _ outcome now.instant
      | login accepted | events outcome => rfl

/-! ### Tickets -/

section Tickets

variable {console after : Console}

private theorem tickets_begins {jobs : List Job} (begins : Begins console after jobs) :
    after.tickets.Perm (console.tickets ++ (jobs.map Job.kind).map (Ticket.mk console.epoch)) := by
  have begun : after.tasks.map Task.ticket =
      console.tasks.map Task.ticket ++ (jobs.map Job.kind).map (Ticket.mk console.epoch) := by
    rw [begins.tasks, List.map_append, List.map_map, List.map_map]
    rfl
  rw [tickets, tickets, begun, begins.inbox, List.append_assoc, List.append_assoc]
  exact List.perm_append_comm.append_left _

/-- A task that ends hands its ticket on to its result. -/
theorem tickets_finish {index : Nat} {task : Task} {result : TaskResult}
    (waits : console.tasks[index]? = some task) (sameKind : result.kind = task.job.kind) :
    (console.finish index task result).tickets.Perm console.tickets := by
  have handed : (console.finish index task result).tickets =
      (console.tasks.eraseIdx index).map Task.ticket ++
        (console.inbox.map Message.ticket ++ [task.ticket]) := by
    rw [tickets, finish, List.map_append, Task.ticket, ← sameKind]
    rfl
  have ended : (task.ticket :: (console.tasks.eraseIdx index).map Task.ticket).Perm
      (console.tasks.map Task.ticket) := (perm_eraseIdx waits).map Task.ticket
  rw [handed, tickets, ← List.append_assoc]
  exact (List.perm_append_singleton _ _).trans (ended.append_right _)

private theorem tickets_set {index : Nat} {task : Task} {credential : Option Credential}
    (waits : console.tasks[index]? = some task) :
    { console with tasks := console.tasks.set index { task with carried := credential } }.tickets =
      console.tickets := by
  have same : (console.tasks.set index { task with carried := credential }).map Task.ticket =
      console.tasks.map Task.ticket := map_set_of_same waits rfl
  rw [tickets, tickets, same]

private theorem tickets_eraseIdx {index : Nat} {message : Message}
    (waits : console.inbox[index]? = some message) :
    (message.ticket :: { console with inbox := console.inbox.eraseIdx index }.tickets).Perm
      console.tickets :=
  List.perm_middle.symm.trans (((perm_eraseIdx waits).map Message.ticket).append_left _)

private theorem outstanding_eraseIdx {index : Nat} {message : Message}
    (waits : console.inbox[index]? = some message) (kind : JobKind) :
    console.outstanding kind =
      { console with inbox := console.inbox.eraseIdx index }.outstanding kind +
        if message.ticket = ⟨console.epoch, kind⟩ then 1 else 0 := by
  rw [outstanding, ← (tickets_eraseIdx waits).count_eq, List.count_cons]
  simp only [beq_iff_eq]
  rfl

end Tickets

/-! ### Accounts -/

/-- The screens count the open tickets of the present epoch, and none is later. -/
structure Accounts (console : Console) : Prop where
  known : ∀ ticket ∈ console.tickets, ticket.epoch ≤ console.epoch
  counted : ∀ kind, console.outstanding kind = console.busy kind

section Steps

variable {console after : Console}

theorem Accounts.of_same (accounts : Accounts console)
    (tickets : after.tickets.Perm console.tickets) (epoch : after.epoch = console.epoch)
    (busy : after.busy = console.busy) : Accounts after where
  known := fun ticket member => epoch ▸ accounts.known ticket (tickets.mem_iff.mp member)
  counted := fun kind => by
    rw [outstanding, tickets.count_eq, epoch, busy]
    exact accounts.counted kind

theorem Accounts.works (accounts : Accounts console) (works : Works console after) :
    Accounts after := by
  obtain ⟨jobs, begins⟩ := works
  have tickets := tickets_begins begins
  constructor
  case known =>
    intro ticket member
    rw [begins.epoch]
    rcases List.mem_append.mp (tickets.mem_iff.mp member) with earlier | begun
    · exact accounts.known ticket earlier
    · obtain ⟨kind, -, rfl⟩ := List.mem_map.mp begun
      exact Nat.le_refl _
  case counted =>
    intro kind
    have begun : ((jobs.map Job.kind).map (Ticket.mk console.epoch)).count ⟨console.epoch, kind⟩ =
        (jobs.map Job.kind).count kind :=
      List.count_map_of_injective _ _ (fun _ _ same => congrArg Ticket.kind same) kind
    rw [outstanding, begins.epoch, tickets.count_eq, List.count_append, begun, begins.busy,
      ← accounts.counted kind]
    rfl

/-- With a new epoch nothing that was started counts any more. -/
theorem Accounts.reset (accounts : Accounts console) : Accounts console.reset where
  known := fun ticket member => Nat.le_succ_of_le (accounts.known ticket member)
  counted := by
    intro kind
    have fresh : (⟨console.epoch + 1, kind⟩ : Ticket) ∉ console.tickets := fun member =>
      Nat.not_succ_le_self _ (accounts.known _ member)
    rw [outstanding]
    change console.tickets.count ⟨console.epoch + 1, kind⟩ = _
    rw [List.count_eq_zero_of_not_mem fresh]
    cases kind <;> rfl

private theorem Accounts.known_eraseIdx (accounts : Accounts console) {index : Nat}
    {message : Message} (waits : console.inbox[index]? = some message) :
    ∀ ticket ∈ { console with inbox := console.inbox.eraseIdx index }.tickets,
      ticket.epoch ≤ console.epoch := fun ticket member =>
  accounts.known ticket ((tickets_eraseIdx waits).mem_iff.mp (List.mem_cons_of_mem _ member))

theorem Accounts.drops (accounts : Accounts console) {index : Nat} {message : Message}
    (waits : console.inbox[index]? = some message) (stale : message.epoch ≠ console.epoch) :
    Accounts { console with inbox := console.inbox.eraseIdx index } where
  known := accounts.known_eraseIdx waits
  counted := fun kind => by
    have other : message.ticket ≠ ⟨console.epoch, kind⟩ := fun same =>
      stale (congrArg Ticket.epoch same)
    have whole := outstanding_eraseIdx waits kind
    rw [if_neg other, Nat.add_zero] at whole
    exact whole.symm.trans (accounts.counted kind)

theorem Accounts.takes (accounts : Accounts console) {index : Nat} {message : Message}
    (waits : console.inbox[index]? = some message) (fresh : message.epoch = console.epoch)
    (now : Moment) : Accounts
      ({ console with inbox := console.inbox.eraseIdx index }.takeIn message.result now) := by
  have same := sameWork_takeIn { console with inbox := console.inbox.eraseIdx index }
    message.result now
  have sameTickets : ({ console with inbox := console.inbox.eraseIdx index }.takeIn message.result
      now).tickets = { console with inbox := console.inbox.eraseIdx index }.tickets := by
    rw [tickets, same.tasks, same.inbox, tickets]
  constructor
  case known =>
    rw [sameTickets, same.epoch]
    exact accounts.known_eraseIdx waits
  case counted =>
    intro kind
    have whole := outstanding_eraseIdx waits kind
    -- The message's own ticket is the one by which the flag or the count goes down.
    rw [accounts.counted kind, Message.ticket, fresh] at whole
    rw [busy_takeIn, outstanding, sameTickets, same.epoch]
    change { console with inbox := console.inbox.eraseIdx index }.outstanding kind =
      if message.result.kind = kind then console.busy kind - 1 else console.busy kind
    by_cases ofKind : message.result.kind = kind
    · rw [if_pos ofKind, whole, if_pos (by rw [ofKind]), Nat.add_sub_cancel]
    · rw [if_neg ofKind, whole, if_neg fun sameTicket => ofKind (congrArg Ticket.kind sameTicket)]
      rfl

end Steps

theorem accounts_step (console : Console) (now : Moment) (step : Step)
    (accounts : Accounts console) : Accounts (console.step now step) := by
  have effect := effect_step console now step
  generalize console.step now step = after at effect
  cases effect with
  | idle => exact accounts
  | works isLocal works => exact accounts.works works
  | asks | logsOut | turnsAway => exact accounts.of_same (.refl _) rfl rfl
  | entersLogin =>
      have moved : Accounts { console.takeUp with route := .login } :=
        accounts.of_same (.refl _) rfl rfl
      exact moved.reset
  | entersScreen changed inside admitted works =>
      have moved : Accounts { console.takeUp with route := console.session.navigator.route } :=
        accounts.of_same (.refl _) rfl rfl
      exact moved.works works
  | carries waits => exact accounts.of_same (.of_eq (tickets_set waits)) rfl rfl
  | fails waits =>
      exact accounts.of_same (tickets_finish waits (kind_failed _ _)) rfl rfl
  | concludes waits =>
      exact accounts.of_same (tickets_finish waits (kind_conclude _ _ _ _)) rfl rfl
  | drops waits stale => exact accounts.drops waits stale
  | takes waits fresh => exact accounts.takes waits fresh now

private theorem accounts_opened (client : Client) (session : Session) (username : Option String)
    (opening : Moment) : Accounts ((Console.new client session username).opened opening) := by
  have new : Accounts (Console.new client session username) := by
    refine ⟨fun ticket member => absurd member List.not_mem_nil, fun kind => ?_⟩
    cases username <;> cases kind <;> rfl
  rcases opened_cases (Console.new client session username) opening with
    ⟨-, reset⟩ | ⟨-, works⟩ | ⟨-, asks⟩
  · rw [reset]
    exact new.reset
  · exact new.works works
  · rw [asks]
    exact new.of_same (.refl _) rfl rfl

/-- What is outstanding in the present epoch is what the screens say. At most one
fetch of events and one login are, and to take in statistics never counts below
zero. -/
structure CountsExactly (console : Console) : Prop where
  events : console.outstanding .events = if console.events.loading then 1 else 0
  stats : console.outstanding .stats = console.dashboard.outstanding
  login : console.outstanding .login = if console.login.pending then 1 else 0
  oneFetch : console.outstanding .events ≤ 1
  oneLogin : console.outstanding .login ≤ 1
  aboveZero : ∀ message ∈ console.inbox, message.epoch = console.epoch →
    ∀ outcome, message.result = .stats outcome → ∀ now,
      (console.dashboard.finishRefresh outcome now).outstanding + 1 = console.dashboard.outstanding

private theorem Accounts.countsExactly {console : Console} (accounts : Accounts console) :
    CountsExactly console where
  events := (accounts.counted .events).trans (Bool.cond_eq_ite _ _ _)
  stats := accounts.counted .stats
  login := (accounts.counted .login).trans (Bool.cond_eq_ite _ _ _)
  oneFetch := accounts.counted .events ▸ Bool.toNat_le _
  oneLogin := accounts.counted .login ▸ Bool.toNat_le _
  aboveZero := by
    intro message waits fresh outcome isStats now
    have isOpen : message.ticket ∈ console.tickets :=
      List.mem_append_right _ (List.mem_map_of_mem waits)
    rw [Message.ticket, fresh, isStats] at isOpen
    have oneOpen : 0 < console.busy .stats := by
      rw [← accounts.counted .stats]
      exact List.count_pos_iff.mpr isOpen
    rw [Dashboard.outstanding_finishRefresh]
    exact Nat.sub_add_cancel oneOpen

/-- Whatever happens to a console, it counts exactly. -/
theorem countsExactly_of_reachable {console : Console} (reachable : Reachable console) :
    CountsExactly console :=
  (reachable.keeps accounts_opened accounts_step).countsExactly

/-- After a login the statistics are asked for twice, and once answered. -/
def twoRefreshes : List (Moment × Step) :=
  [presses (.char 'x'), presses .enter, sends 0, receives 0 200, delivers 0, follows,
    presses (.char 'r'), sends 0, receives 0 200]

theorem countsExactly_twoRefreshes :
    let console := atLogin.run twoRefreshes
    console.tickets = [⟨1, .stats⟩, ⟨1, .stats⟩] ∧
      console.inbox.map Message.ticket = [⟨1, .stats⟩] ∧
      console.dashboard.outstanding = 2 ∧ CountsExactly console :=
  ⟨rfl, rfl, rfl, countsExactly_of_reachable (reachable_run_atLogin twoRefreshes)⟩

end Console

end EventConsole
