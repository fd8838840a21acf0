import EventConsole.Proofs.EventBrowser.Operation
import Mathlib.Data.List.Induction

/-!
Contract: the rows shown are those that the filter admits.

There are two exceptions. A page is shown whole when it has just been taken in,
with the filter kept for its next application; and an edited search text waits
for a quiet time before it counts.

Owns: what applying the filter shows, and over all runs when the rows follow the
filter and when an edit is applied.
-/

namespace EventConsole

/-- A filter that asks for nothing admits everything. -/
theorem EventFilter.admits_of_not_isActive {filter : EventFilter} (idle : filter.isActive = false)
    (event : Event) : filter.admits event = true := by
  simp only [EventFilter.isActive, Bool.or_eq_false_iff, Bool.not_eq_false'] at idle
  obtain ⟨⟨search, severity⟩, eventType⟩ := idle
  simp [EventFilter.admits, EventFilter.equals, search, severity, eventType]

namespace EventBrowser

/-! ### Rows -/

/-- The whole page is shown, in order. -/
structure ShowsAll (browser : EventBrowser) : Prop where
  positions : browser.shown = List.range browser.loaded.length
  events : browser.shownEvents = browser.loaded

/-- Exactly the events of the page that the filter admits are shown, in the
order of the page and each once. -/
structure ShowsAdmitted (browser : EventBrowser) : Prop where
  positions : browser.shown = (List.range browser.loaded.length).filter fun i =>
    browser.loaded[i]?.any browser.filter.admits
  events : browser.shownEvents = browser.loaded.filter browser.filter.admits

private theorem filterMap_range_getElem? {α : Type} (items : List α) :
    (List.range items.length).filterMap (fun i => items[i]?) = items := by
  induction items with
  | nil => rfl
  | cons item rest inductionHypothesis =>
      rw [List.length_cons, List.range_succ_eq_map, List.filterMap_cons, List.filterMap_map]
      exact congrArg (item :: ·) inductionHypothesis

theorem showsAll_of_range {browser : EventBrowser}
    (positions : browser.shown = List.range browser.loaded.length) : ShowsAll browser := by
  refine ⟨positions, ?_⟩
  rw [shownEvents, positions, filterMap_range_getElem?]

/-- Positions chosen by the events at them. -/
theorem map_snd_filter_zipIdx {α : Type} (items : List α) (wanted : α → Bool) :
    (items.zipIdx.filter fun (item, _) => wanted item).map Prod.snd =
      (List.range items.length).filter fun i => items[i]?.any wanted := by
  have byPosition : items.zipIdx.filter (fun (item, _) => wanted item) =
      items.zipIdx.filter ((fun i => items[i]?.any wanted) ∘ Prod.snd) := by
    refine List.filter_congr fun (item, i) member => ?_
    rw [List.mk_mem_zipIdx_iff_getElem?] at member
    simp [member]
  rw [byPosition, ← List.filter_map, List.zipIdx_map_snd, List.range_eq_range']

theorem admitted_eq_filter (filter : EventFilter) (events : List Event) :
    admitted filter events =
      (List.range events.length).filter fun i => events[i]?.any filter.admits := by
  unfold admitted
  cases active : filter.isActive with
  | true => exact map_snd_filter_zipIdx events filter.admits
  | false =>
      refine (List.filter_eq_self.mpr fun i member => ?_).symm
      rw [List.getElem?_eq_getElem (List.mem_range.mp member)]
      exact EventFilter.admits_of_not_isActive active _

private theorem filterMap_admitted (filter : EventFilter) (events : List Event) :
    (admitted filter events).filterMap (fun i => events[i]?) = events.filter filter.admits := by
  have chosen : ∀ i : Nat, (if events[i]?.any filter.admits then events[i]? else none) =
      events[i]?.filter filter.admits := by
    intro i
    cases events[i]? <;> rfl
  rw [admitted_eq_filter, List.filterMap_filter]
  simp only [chosen]
  rw [← List.filter_filterMap, filterMap_range_getElem?]

theorem showsAdmitted_applyFilter (browser : EventBrowser) : ShowsAdmitted browser.applyFilter where
  positions := admitted_eq_filter browser.filter browser.loaded
  events := filterMap_admitted browser.filter browser.loaded

/-! ### Which rows are shown -/

/-- A page was taken in with success, and the filter has not been applied since. -/
def TookPageLast (start : EventBrowser) (operations : List Operation) : Prop :=
  ∃ before page after, operations = before ++ .finish (.ok page) :: after ∧
    page.isSuccess = true ∧
    Without (fun browser operation => browser.applies operation = true)
      (start.run (before ++ [.finish (.ok page)])) after

private theorem tookPageLast_finish (start : EventBrowser) (operations : List Operation)
    {page : EventsPage} (success : page.isSuccess = true) :
    TookPageLast start (operations ++ [.finish (.ok page)]) :=
  ⟨operations, page, [], rfl, success, trivial⟩

theorem TookPageLast.concat {start : EventBrowser} {operations : List Operation}
    {operation : Operation} (took : TookPageLast start operations)
    (noFilter : (start.run operations).applies operation = false) :
    TookPageLast start (operations ++ [operation]) := by
  obtain ⟨before, page, after, rfl, success, quiet⟩ := took
  refine ⟨before, page, after ++ [operation], by simp, success, without_concat quiet ?_⟩
  rw [← run_append, List.append_assoc, List.singleton_append, noFilter]
  exact Bool.false_ne_true

/-- Unless an edit waits, the page is shown whole, for which there is a reason,
or as the filter admits. -/
def RowsFollow (whole : Prop) (browser : EventBrowser) : Prop :=
  browser.searchDelay.deadline = none → whole ∧ ShowsAll browser ∨ ShowsAdmitted browser

theorem RowsFollow.of_same {whole still : Prop} {before after : EventBrowser}
    (follow : RowsFollow whole before) (kept : whole → still)
    (loaded : after.loaded = before.loaded) (shown : after.shown = before.shown)
    (filter : after.filter = before.filter)
    (delay : after.searchDelay = before.searchDelay) : RowsFollow still after := by
  intro quiet
  rw [delay] at quiet
  rcases follow quiet with ⟨reason, all⟩ | admitted
  · refine .inl ⟨kept reason, showsAll_of_range ?_⟩
    rw [shown, loaded]
    exact all.positions
  · refine .inr ⟨?_, ?_⟩
    · rw [shown, loaded, filter]
      exact admitted.positions
    · rw [shownEvents, shown, loaded, filter]
      exact admitted.events

theorem RowsFollow.effect {whole still : Prop} {browser : EventBrowser} {operation : Operation}
    {result : Option Fetch × EventBrowser} (effect : Effect browser operation result)
    (kept : browser.applies operation = false → whole → still)
    (taken : ∀ page, operation = .finish (.ok page) → page.isSuccess = true → still)
    (follow : RowsFollow whole browser) : RowsFollow still result.2 := by
  cases effect with
  | looks selected detail noEdit noFilter => exact follow.of_same (kept noFilter) rfl rfl rfl rfl
  | asks page isFetch => exact follow.of_same (kept (applies_of_isFetch isFetch)) rfl rfl rfl rfl
  | fails failure => exact follow.of_same (kept rfl) rfl rfl rfl rfl
  | succeeds page success => exact fun _ => .inl ⟨taken page rfl success, showsAll_of_range rfl⟩
  | empties page => exact fun _ => .inr ⟨rfl, rfl⟩
  | edits text now => exact fun quiet => absurd quiet (Option.some_ne_none _)
  | filters filter => exact fun _ => .inr (showsAdmitted_applyFilter _)
  | fires now => exact fun _ => .inr (showsAdmitted_applyFilter _)

theorem rowsFollow_run (size : UInt32) (operations : List Operation) :
    RowsFollow (TookPageLast (withPageSize size) operations)
      ((withPageSize size).run operations) := by
  -- From the end: the last operation decides what the run before it has left to say.
  induction operations using List.reverseRecOn with
  | nil => exact fun _ => .inr ⟨rfl, rfl⟩
  | append_singleton operations operation inductionHypothesis =>
      rw [run_concat]
      refine inductionHypothesis.effect (effect_perform _ operation)
        (fun noFilter took => took.concat noFilter) ?_
      rintro page rfl success
      exact tookPageLast_finish _ operations success

/-! ### When an edit is applied -/

/-- Operations that move or pass a deadline: edits of the search text, and looks
at the clock from the deadline on. -/
def meets (deadline : Int) (browser : EventBrowser) (operation : Operation) : Prop :=
  browser.editTime? operation ≠ none ∨ ∃ now, operation = .tick now ∧ deadline ≤ now

section Deadline

variable {browser : EventBrowser}

private theorem tick_of_idle (idle : browser.searchDelay.deadline = none) (now : Int) :
    browser.tick now = (false, browser) := by
  simp [tick, Debounce.fire, Debounce.isDue, idle]

private theorem tick_of_early {deadline now : Int}
    (waits : browser.searchDelay.deadline = some deadline)
    (early : now < deadline) : browser.tick now = (false, browser) := by
  have notDue : ¬ deadline ≤ now := Int.not_le.mpr early
  simp [tick, Debounce.fire, Debounce.isDue, waits, notDue]

private theorem tick_of_due {deadline now : Int}
    (waits : browser.searchDelay.deadline = some deadline) (due : deadline ≤ now) :
    browser.tick now =
      (true,
        { browser with searchDelay := { browser.searchDelay with deadline := none }
        }.applyFilter) := by
  simp [tick, Debounce.fire, Debounce.isDue, waits, due]

private theorem delay_effect {operation : Operation} {result : Option Fetch × EventBrowser}
    (effect : Effect browser operation result) :
    result.2.searchDelay.delay = browser.searchDelay.delay := by
  cases effect <;> rfl

theorem delay_run (browser : EventBrowser) (operations : List Operation) :
    (browser.run operations).searchDelay.delay = browser.searchDelay.delay := by
  induction operations generalizing browser with
  | nil => rfl
  | cons operation rest inductionHypothesis =>
      exact (inductionHypothesis _).trans (delay_effect (effect_perform browser operation))

/-- An edit sets the deadline, a look at the clock from then on clears it, and
nothing else touches it. -/
theorem deadline_effect {operation : Operation} {result : Option Fetch × EventBrowser}
    (effect : Effect browser operation result) :
    (∃ time, browser.editTime? operation = some time ∧
        result.2.searchDelay.deadline = some (time + browser.searchDelay.delay)) ∨
      browser.editTime? operation = none ∧
        ((∃ now, operation = .tick now ∧ browser.searchDelay.isDue now = true ∧
            result.2.searchDelay.deadline = none) ∨
          result.2.searchDelay.deadline = browser.searchDelay.deadline) := by
  cases effect with
  | looks selected detail noEdit => exact .inr ⟨noEdit, .inr rfl⟩
  | asks page isFetch => exact .inr ⟨editTime?_of_isFetch isFetch, .inr rfl⟩
  | fails failure => exact .inr ⟨rfl, .inr rfl⟩
  | succeeds page => exact .inr ⟨rfl, .inr rfl⟩
  | empties page => exact .inr ⟨rfl, .inr rfl⟩
  | edits text now isEdit => exact .inl ⟨now, isEdit, rfl⟩
  | filters filter isFilter => exact .inr ⟨editTime?_of_isFilter isFilter, .inr rfl⟩
  | fires now due => exact .inr ⟨rfl, .inl ⟨now, rfl, due, rfl⟩⟩

private theorem deadline_operate_of_edit {operation : Operation} {time : Int}
    (isEdit : browser.editTime? operation = some time) :
    (browser.operate operation).searchDelay.deadline = some (time + browser.searchDelay.delay) := by
  rcases deadline_effect (effect_perform browser operation) with
    ⟨edited, isEdit', set⟩ | ⟨noEdit, _⟩
  · rw [isEdit] at isEdit'
    rw [Option.some.inj isEdit']
    exact set
  · rw [noEdit] at isEdit
    contradiction

private theorem deadline_operate_of_not_meets {deadline : Int} {operation : Operation}
    (apart : ¬ meets deadline browser operation)
    (waits : browser.searchDelay.deadline = some deadline) :
    (browser.operate operation).searchDelay.deadline = some deadline := by
  rw [meets, not_or, not_not] at apart
  rcases deadline_effect (effect_perform browser operation) with
    ⟨time, isEdit, _⟩ | ⟨_, ⟨now, isTick, due, _⟩ | same⟩
  · rw [apart.1] at isEdit
    contradiction
  · rw [Debounce.isDue, waits, Option.any_some, decide_eq_true_iff] at due
    exact absurd ⟨now, isTick, due⟩ apart.2
  · exact same.trans waits

private theorem deadline_operate_of_idle {operation : Operation}
    (noEdit : ¬ browser.editTime? operation ≠ none) (idle : browser.searchDelay.deadline = none) :
    (browser.operate operation).searchDelay.deadline = none := by
  rcases deadline_effect (effect_perform browser operation) with
    ⟨time, isEdit, _⟩ | ⟨_, ⟨_, _, _, cleared⟩ | same⟩
  · exact absurd (by simp [isEdit]) noEdit
  · exact cleared
  · exact same.trans idle

end Deadline

/-- A browser in which an edit waits for its deadline: looks at the clock before
change nothing, and the first one from then on applies the filter. Later ones
change nothing until the next edit. -/
structure WaitsUntil (deadline : Int) (browser : EventBrowser) : Prop where
  early : ∀ now, now < deadline → browser.tick now = (false, browser)
  fires : ∀ now, deadline ≤ now →
    (browser.tick now).1 = true ∧ (browser.tick now).2.loaded = browser.loaded ∧
      (browser.tick now).2.filter = browser.filter ∧ ShowsAdmitted (browser.tick now).2
  once : ∀ now, deadline ≤ now → ∀ operations,
    Without (fun browser operation => browser.editTime? operation ≠ none) (browser.tick now).2
      operations →
    ∀ later, ((browser.tick now).2.run operations).tick later =
      (false, (browser.tick now).2.run operations)

private theorem waitsUntil_of_deadline {browser : EventBrowser} {deadline : Int}
    (waits : browser.searchDelay.deadline = some deadline) : WaitsUntil deadline browser where
  early := fun _ early => tick_of_early waits early
  fires := by
    intro now due
    rw [tick_of_due waits due]
    exact ⟨rfl, rfl, rfl, showsAdmitted_applyFilter _⟩
  once := by
    intro now due operations noEdits later
    refine tick_of_idle (noEdits.keeps (fun _ _ => deadline_operate_of_idle) ?_) later
    rw [tick_of_due waits due]
    rfl

/-! ### Runs -/

/-- After a run the rows follow the filter, but for an edit that waits and a page
that was taken in last; and an edit waits for the quiet time from the last one. -/
structure TracksFilter (start : EventBrowser) (operations : List Operation) : Prop where
  rows : RowsFollow (TookPageLast start operations) (start.run operations)
  edits : ∀ edit time, (start.run operations).editTime? edit = some time →
    ∀ quiet, Without (meets (time + searchQuiet)) ((start.run operations).operate edit) quiet →
      WaitsUntil (time + searchQuiet) (((start.run operations).operate edit).run quiet)

/-- Whatever is done to a browser, its rows track its filter. -/
theorem tracksFilter_run (size : UInt32) (operations : List Operation) :
    TracksFilter (withPageSize size) operations where
  rows := rowsFollow_run size operations
  edits := by
    intro edit time isEdit quiet apart
    have delay : ((withPageSize size).run operations).searchDelay.delay = searchQuiet :=
      delay_run (withPageSize size) operations
    refine waitsUntil_of_deadline (apart.keeps (fun _ _ => deadline_operate_of_not_meets) ?_)
    rw [deadline_operate_of_edit isEdit, delay]

/-- One page of two events. -/
def twoEvents : EventsPage :=
  { (default : EventsPage) with
    status := some "success"
    data := some
      [{ (default : Event) with message := some "login" },
        { (default : Event) with message := some "exit", severity := some "high" }] }

/-- A character is typed at 1000 milliseconds; the severity chosen meanwhile is
applied at once. -/
theorem tracksFilter_twoEvents :
    let browser := (((withPageSize 50).run [.load, .finish (.ok twoEvents)]).operate
      (.pushSearch 'x' 1000)).run [.tick 1100, .setSeverity "high", .tick 1299]
    browser.tick 1299 = (false, browser) ∧ (browser.tick 1300).1 = true ∧
      ShowsAdmitted (browser.tick 1300).2 ∧
      ((browser.tick 1300).2.run [.cycleSeverity]).tick 9000 =
        (false, (browser.tick 1300).2.run [.cycleSeverity]) := by
  have apart : Without (meets (1000 + searchQuiet))
      (((withPageSize 50).run [.load, .finish (.ok twoEvents)]).operate (.pushSearch 'x' 1000))
      [.tick 1100, .setSeverity "high", .tick 1299] := by
    simp [Without, meets, editTime?, searchQuiet]
  have waits := (tracksFilter_run 50 [.load, .finish (.ok twoEvents)]).edits
    (.pushSearch 'x' 1000) 1000 rfl _ apart
  obtain ⟨fired, _, _, admitted⟩ := waits.fires 1300 (by decide)
  exact ⟨waits.early 1299 (by decide), fired, admitted,
    waits.once 1300 (by decide) [.cycleSeverity] ⟨by simp [editTime?], trivial⟩ 9000⟩

end EventBrowser

end EventConsole
