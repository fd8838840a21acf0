import EventConsole.EventBrowser.Input

/-!
Contract: everything that can be done to a browser, one operation at a time.

A run is any sequence of operations, so that what holds after all runs holds
whatever the order of pages, outcomes, edits and looks at the clock.

Owns: operations, runs, what one operation can make of a browser, and that keys
and the mouse do nothing but operate.

Does not own: that the fetches of a run are each answered once
(`EventBrowser.Requests`).
-/

namespace EventConsole.EventBrowser

inductive Operation where
  | load
  | previousPage
  | nextPage
  | finish (outcome : Except Failure EventsPage)
  | setSearch (text : String) (now : Int)
  | pushSearch (c : Char) (now : Int)
  | popSearch (now : Int)
  | tick (now : Int)
  | setSeverity (severity : String)
  | setEventType (eventType : String)
  | cycleSeverity
  | cycleEventType
  | clearFilter
  | applyFilter
  | select (row : Nat)
  | selectNext
  | selectPrevious
  | selectLast
  | openDetail (row : Nat)
  | openSelected
  | closeDetail
  | scrollDetail (delta : Int)

/-- The fetch that an operation asks for, if any, and the browser after it. -/
def perform (browser : EventBrowser) : Operation → Option Fetch × EventBrowser
  | .load => browser.load
  | .previousPage => browser.previousPage
  | .nextPage => browser.nextPage
  | .finish outcome => (none, browser.finishLoad outcome)
  | .setSearch text now => (none, browser.setSearch text now)
  | .pushSearch c now => (none, browser.pushSearch c now)
  | .popSearch now => (none, browser.popSearch now)
  | .tick now => (none, (browser.tick now).2)
  | .setSeverity severity => (none, browser.setSeverity severity)
  | .setEventType eventType => (none, browser.setEventType eventType)
  | .cycleSeverity => (none, browser.cycleSeverity)
  | .cycleEventType => (none, browser.cycleEventType)
  | .clearFilter => (none, browser.clearFilter)
  | .applyFilter => (none, browser.applyFilter)
  | .select row => (none, browser.select row)
  | .selectNext => (none, browser.selectNext)
  | .selectPrevious => (none, browser.selectPrevious)
  | .selectLast => (none, browser.selectLast)
  | .openDetail row => (none, (browser.openDetail row).2)
  | .openSelected => (none, browser.openSelected.2)
  | .closeDetail => (none, browser.closeDetail)
  | .scrollDetail delta => (none, browser.scrollDetail delta)

def operate (browser : EventBrowser) (operation : Operation) : EventBrowser :=
  (browser.perform operation).2

def run (browser : EventBrowser) (operations : List Operation) : EventBrowser :=
  operations.foldl operate browser

/-! ### Kinds of operations -/

/-- Operations that may ask for a page. -/
def Operation.isFetch : Operation → Bool
  | .load | .previousPage | .nextPage => true
  | _ => false

/-- Operations that neither ask for a page nor take an outcome. -/
def Operation.isLocal : Operation → Bool
  | .load | .previousPage | .nextPage | .finish _ => false
  | _ => true

/-- The time at which an operation edits the search text. To remove a character
from an empty text is no edit. -/
def editTime? (browser : EventBrowser) : Operation → Option Int
  | .setSearch _ now | .pushSearch _ now => some now
  | .popSearch now => if browser.filter.search.isEmpty then none else some now
  | _ => none

/-- Operations that apply the filter at once. -/
def Operation.isFilter : Operation → Bool
  | .setSeverity _ | .setEventType _ | .cycleSeverity | .cycleEventType | .clearFilter
  | .applyFilter => true
  | _ => false

/-- Whether an operation applies the filter; a look at the clock does once an
edited search text has waited long enough. -/
def applies (browser : EventBrowser) : Operation → Bool
  | .tick now => browser.searchDelay.isDue now
  | operation => operation.isFilter

section Kinds

variable {browser : EventBrowser} {operation : Operation}

theorem editTime?_of_isFetch (isFetch : operation.isFetch = true) :
    browser.editTime? operation = none := by
  cases operation with
  | load | previousPage | nextPage => rfl
  | _ => contradiction

theorem applies_of_isFetch (isFetch : operation.isFetch = true) :
    browser.applies operation = false := by
  cases operation with
  | load | previousPage | nextPage => rfl
  | _ => contradiction

theorem editTime?_of_isFilter (isFilter : operation.isFilter = true) :
    browser.editTime? operation = none := by
  cases operation with
  | setSeverity | setEventType | cycleSeverity | cycleEventType | clearFilter | applyFilter => rfl
  | _ => contradiction

end Kinds

/-! ### Effects -/

/-- What an operation makes of a browser. -/
inductive Effect (browser : EventBrowser) : Operation → Option Fetch × EventBrowser → Prop where
  /-- It moves the selection, handles the detail, or finds nothing to do. -/
  | looks {operation} (selected : Nat) (detail : Option EventDetail)
      (noEdit : browser.editTime? operation = none) (noFilter : browser.applies operation = false) :
      Effect browser operation (none, { browser with selected := selected, detail := detail })
  | asks {operation} (page : UInt32) (isFetch : operation.isFetch = true)
      (free : browser.loading = false) :
      Effect browser operation
        (some ⟨page, browser.pageSize⟩,
          { browser with currentPage := page, loading := true, phase := .loading })
  | fails (failure : Failure) :
      Effect browser (.finish (.error failure))
        (none, { browser with loading := false, phase := .failed })
  | succeeds (page : EventsPage) (success : page.isSuccess = true) :
      Effect browser (.finish (.ok page))
        (none,
          { browser with
            loading := false
            totalPages := page.pageCount
            totalEvents := page.totalEvents
            loaded := page.data.getD []
            shown := List.range (page.data.getD []).length
            knownTypes := learnTypes browser.knownTypes (page.data.getD [])
            selected := 0
            phase := phaseOf (List.range (page.data.getD []).length) })
  | empties (page : EventsPage) (noSuccess : page.isSuccess = false) :
      Effect browser (.finish (.ok page))
        (none,
          { browser with
            loading := false
            loaded := []
            shown := []
            totalEvents := 0
            selected := 0
            phase := .empty })
  | edits {operation} (text : String) (now : Int)
      (isEdit : browser.editTime? operation = some now) :
      Effect browser operation (none, browser.setSearch text now)
  | filters {operation} (filter : EventFilter) (isFilter : operation.isFilter = true) :
      Effect browser operation (none, { browser with filter := filter }.applyFilter)
  | fires (now : Int) (due : browser.searchDelay.isDue now = true) :
      Effect browser (.tick now)
        (none, { browser with searchDelay := { browser.searchDelay with deadline := none }
          }.applyFilter)

section Effects

variable (browser : EventBrowser)

theorem effect_idle {operation : Operation} (noEdit : browser.editTime? operation = none)
    (noFilter : browser.applies operation = false) : Effect browser operation (none, browser) :=
  .looks browser.selected browser.detail noEdit noFilter

theorem effect_loadPage {operation : Operation} (page : UInt32) (isFetch : operation.isFetch = true)
    (free : browser.loading = false) :
    Effect browser operation (load { browser with currentPage := page }) := by
  rw [load_eq, if_neg (by simp [free])]
  exact .asks page isFetch free

private theorem effect_load : Effect browser .load browser.load := by
  cases loading : browser.loading with
  | false => exact effect_loadPage browser browser.currentPage rfl loading
  | true =>
      rw [load_eq, loading]
      exact effect_idle browser rfl rfl

private theorem effect_previousPage : Effect browser .previousPage browser.previousPage := by
  unfold previousPage
  split
  case isTrue mayGo =>
    rw [canGoBack, Bool.and_eq_true, Bool.not_eq_true'] at mayGo
    exact effect_loadPage browser _ rfl mayGo.2
  case isFalse => exact effect_idle browser rfl rfl

private theorem effect_nextPage : Effect browser .nextPage browser.nextPage := by
  unfold nextPage
  split
  case isTrue mayGo =>
    rw [canGoOn, Bool.and_eq_true, Bool.not_eq_true'] at mayGo
    exact effect_loadPage browser _ rfl mayGo.2
  case isFalse => exact effect_idle browser rfl rfl

private theorem effect_finish (outcome : Except Failure EventsPage) :
    Effect browser (.finish outcome) (none, browser.finishLoad outcome) := by
  cases outcome with
  | error failure => exact .fails failure
  | ok page =>
      unfold finishLoad
      dsimp only
      split
      case isTrue success => exact .succeeds page success
      case isFalse noSuccess => exact .empties page (Bool.eq_false_iff.mpr noSuccess)

private theorem effect_popSearch (now : Int) :
    Effect browser (.popSearch now) (none, browser.popSearch now) := by
  unfold popSearch
  split
  case h_1 nothing =>
    have noText : browser.filter.search.isEmpty = true := by
      rw [List.reverse_eq_nil_iff] at nothing
      rw [String.isEmpty_iff, ← String.toList_eq_nil_iff]
      exact nothing
    exact effect_idle browser (if_pos noText) rfl
  case h_2 last kept some =>
    have text : browser.filter.search.isEmpty = false := by
      rw [← Bool.not_eq_true, String.isEmpty_iff, ← String.toList_eq_nil_iff]
      intro nothing
      rw [nothing] at some
      contradiction
    exact .edits _ now (if_neg (by rw [text]; exact Bool.false_ne_true))

private theorem effect_tick (now : Int) :
    Effect browser (.tick now) (none, (browser.tick now).2) := by
  unfold tick Debounce.fire
  cases due : browser.searchDelay.isDue now with
  | true => exact .fires now due
  | false => exact effect_idle browser rfl due

private theorem effect_openDetail {operation : Operation} (row : Nat)
    (noEdit : browser.editTime? operation = none) (noFilter : browser.applies operation = false) :
    Effect browser operation (none, (browser.openDetail row).2) := by
  unfold openDetail
  split
  · exact effect_idle browser noEdit noFilter
  · exact .looks row _ noEdit noFilter

/-- Every operation has one of the effects. -/
theorem effect_perform (operation : Operation) :
    Effect browser operation (browser.perform operation) := by
  cases operation with
  | load => exact effect_load browser
  | previousPage => exact effect_previousPage browser
  | nextPage => exact effect_nextPage browser
  | finish outcome => exact effect_finish browser outcome
  | setSearch text now => exact .edits text now rfl
  | pushSearch c now => exact .edits _ now rfl
  | popSearch now => exact effect_popSearch browser now
  | tick now => exact effect_tick browser now
  | setSeverity severity => exact .filters { browser.filter with severity := severity } rfl
  | setEventType eventType => exact .filters { browser.filter with eventType := eventType } rfl
  | cycleSeverity => exact .filters { browser.filter with severity := _ } rfl
  | cycleEventType => exact .filters { browser.filter with eventType := _ } rfl
  | clearFilter => exact .filters EventFilter.none rfl
  | applyFilter => exact .filters browser.filter rfl
  | select row => exact .looks (clampRow browser.shown row) browser.detail rfl rfl
  | selectNext => exact .looks _ browser.detail rfl rfl
  | selectPrevious => exact .looks _ browser.detail rfl rfl
  | selectLast => exact .looks _ browser.detail rfl rfl
  | openDetail row => exact effect_openDetail browser row rfl rfl
  | openSelected => exact effect_openDetail browser browser.selected rfl rfl
  | closeDetail => exact .looks browser.selected none rfl rfl
  | scrollDetail delta => exact .looks browser.selected _ rfl rfl

/-- To ask for a page sets the flag, which was clear, and nothing else but an
outcome changes it. -/
theorem loading_perform {operation : Operation}
    (noOutcome : ∀ outcome, operation ≠ .finish outcome) :
    (browser.perform operation).2.loading.toNat =
      browser.loading.toNat + (browser.perform operation).1.toList.length := by
  have effect := effect_perform browser operation
  generalize browser.perform operation = result at effect
  cases effect with
  | looks | edits | filters | fires => rfl
  | asks page isFetch free =>
      rw [free]
      rfl
  | fails | succeeds | empties => exact absurd rfl (noOutcome _)

theorem loading_finishLoad (outcome : Except Failure EventsPage) :
    (browser.finishLoad outcome).loading = false := by
  unfold finishLoad
  split
  · rfl
  · split <;> rfl

end Effects

theorem perform_of_isLocal (browser : EventBrowser) {operation : Operation}
    (isLocal : operation.isLocal = true) :
    browser.perform operation = (none, browser.operate operation) := by
  cases operation with
  | load | previousPage | nextPage | finish => contradiction
  | _ => rfl

theorem Operation.ne_finish_of_isLocal {operation : Operation} (isLocal : operation.isLocal = true)
    (outcome : Except Failure EventsPage) : operation ≠ .finish outcome := by
  rintro rfl
  contradiction

/-! ### The detail -/

section Detail

variable (browser : EventBrowser)

theorem detail_load : browser.load.2.detail = browser.detail := by
  rw [load_eq]
  split <;> rfl

theorem detail_previousPage : browser.previousPage.2.detail = browser.detail := by
  unfold previousPage
  split
  · exact detail_load _
  · rfl

theorem detail_nextPage : browser.nextPage.2.detail = browser.detail := by
  unfold nextPage
  split
  · exact detail_load _
  · rfl

theorem detail_popSearch (now : Int) : (browser.popSearch now).detail = browser.detail := by
  unfold popSearch
  split <;> rfl

/-- An outcome is no reason to close the detail or to change the filter. -/
theorem focus_finishLoad (outcome : Except Failure EventsPage) :
    (browser.finishLoad outcome).detail = browser.detail ∧
      (browser.finishLoad outcome).filter = browser.filter := by
  unfold finishLoad
  split
  · exact ⟨rfl, rfl⟩
  · dsimp only
    split <;> exact ⟨rfl, rfl⟩

theorem focus_tick (now : Int) :
    (browser.tick now).2.detail = browser.detail ∧
      (browser.tick now).2.filter = browser.filter := by
  unfold tick
  dsimp only
  split <;> exact ⟨rfl, rfl⟩

end Detail

/-! ### Runs -/

theorem run_append (browser : EventBrowser) (operations more : List Operation) :
    browser.run (operations ++ more) = (browser.run operations).run more :=
  List.foldl_append

theorem run_concat (browser : EventBrowser) (operations : List Operation) (operation : Operation) :
    browser.run (operations ++ [operation]) = (browser.run operations).operate operation :=
  run_append browser operations [operation]

/-- None of the operations of a run is of some kind. -/
def Without (kind : EventBrowser → Operation → Prop) : EventBrowser → List Operation → Prop
  | _, [] => True
  | browser, operation :: rest =>
      ¬ kind browser operation ∧ Without kind (browser.operate operation) rest

/-- What holds at the start of such a run and is kept by all other operations
holds at its end. -/
theorem Without.keeps {kind : EventBrowser → Operation → Prop} {holds : EventBrowser → Prop}
    (kept : ∀ browser operation, ¬ kind browser operation → holds browser →
      holds (browser.operate operation))
    {browser : EventBrowser} {operations : List Operation} (run : Without kind browser operations)
    (start : holds browser) : holds (browser.run operations) := by
  induction operations generalizing browser with
  | nil => exact start
  | cons operation rest inductionHypothesis =>
      exact inductionHypothesis run.2 (kept browser operation run.1 start)

theorem without_concat {kind : EventBrowser → Operation → Prop} {browser : EventBrowser}
    {operations : List Operation} {operation : Operation} (run : Without kind browser operations)
    (other : ¬ kind (browser.run operations) operation) :
    Without kind browser (operations ++ [operation]) := by
  induction operations generalizing browser with
  | nil => exact ⟨other, trivial⟩
  | cons first rest inductionHypothesis => exact ⟨run.1, inductionHypothesis run.2 other⟩

/-! ### Keys and the mouse -/

/-- One browser follows from another by a local operation, or is the same. -/
def Handles (before after : EventBrowser) : Prop :=
  after = before ∨
    ∃ operation : Operation, operation.isLocal = true ∧ after = before.operate operation

section Handling

variable (browser : EventBrowser)

theorem handles_refl : Handles browser browser := .inl rfl

theorem handles_operate (operation : Operation) (isLocal : operation.isLocal = true) :
    Handles browser (browser.operate operation) := .inr ⟨operation, isLocal, rfl⟩

private theorem handles_handleDetailKey (key : Key) :
    Handles browser (browser.handleDetailKey key) := by
  unfold handleDetailKey
  split
  case h_1 | h_2 | h_3 => exact handles_operate browser .closeDetail rfl
  case h_4 | h_5 | h_6 | h_7 => exact handles_operate browser (.scrollDetail _) rfl
  case h_8 => exact handles_refl browser

private theorem handles_handleSearchKey (now : Int) (key : Key) :
    Handles browser (browser.handleSearchKey now key).browser := by
  unfold handleSearchKey
  split
  case h_3 => exact handles_operate browser (.popSearch now) rfl
  case h_4 c => exact handles_operate browser (.pushSearch c now) rfl
  all_goals exact handles_refl browser

private theorem handles_handleTableKey (key : Key) :
    Handles browser (browser.handleTableKey key) := by
  unfold handleTableKey
  split
  case h_1 => exact handles_operate browser .cycleSeverity rfl
  case h_2 => exact handles_operate browser .cycleEventType rfl
  case h_3 => exact handles_operate browser .clearFilter rfl
  case h_4 => exact handles_operate browser .selectPrevious rfl
  case h_5 => exact handles_operate browser .selectNext rfl
  case h_6 => exact handles_operate browser (.select 0) rfl
  case h_7 => exact handles_operate browser .selectLast rfl
  case h_8 => exact handles_operate browser .openSelected rfl
  case h_9 => exact handles_refl browser

theorem handles_handleKey (searching : Bool) (key : Key) (now : Int) :
    Handles browser (browser.handleKey searching key now).2.browser := by
  unfold handleKey
  split
  · exact handles_handleDetailKey browser key
  split
  · exact handles_handleSearchKey browser now key
  split
  · exact handles_refl browser
  · exact handles_handleTableKey browser key

private theorem handles_handleDetailMouse (area : Option Screen.Rect) (event : MouseEvent) :
    Handles browser (browser.handleDetailMouse area event) := by
  unfold handleDetailMouse
  split
  · split
    · exact handles_operate browser .closeDetail rfl
    · exact handles_refl browser
  · exact handles_operate browser (.scrollDetail _) rfl
  · exact handles_operate browser (.scrollDetail _) rfl
  · exact handles_refl browser

private theorem handles_handleClick (layout : EventsLayout) (offset column row : Nat) :
    Handles browser (browser.handleClick layout offset column row).2 := by
  unfold handleClick
  split
  · exact handles_refl browser
  split
  · exact handles_refl browser
  split
  case h_1 index _ => exact handles_operate browser (.openDetail index) rfl
  case h_2 => exact handles_refl browser

theorem handles_handleMouse (layout : EventsLayout) (offset : Nat) (area : Option Screen.Rect)
    (event : MouseEvent) : Handles browser (browser.handleMouse layout offset area event).2 := by
  unfold handleMouse
  split
  · exact handles_handleDetailMouse browser area event
  dsimp only
  split
  · exact handles_handleClick browser layout offset _ _
  · split
    · exact handles_operate browser .selectPrevious rfl
    · exact handles_refl browser
  · split
    · exact handles_operate browser .selectNext rfl
    · exact handles_refl browser
  · exact handles_refl browser

end Handling

end EventConsole.EventBrowser
