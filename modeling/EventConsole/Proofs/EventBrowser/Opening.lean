import EventConsole.Proofs.EventBrowser.WellFormed
import EventConsole.Proofs.View.Events

/-!
Contract: which events can be opened from a screen that was just drawn.

Rows in view open as they are drawn: the selected one by a key, the one under the
pointer by a click. While a fetch is outstanding, and after one has failed, the
screen shows a notice, but the rows of an earlier page are still there to be opened.

Owns: what opening a row does, which row is under the pointer, and both for every
screen drawn of a browser with no detail open.

Does not own: what the detail shows (`EventBrowser.Detail`).
-/

namespace EventConsole

open Screen

/-! ### The row under the pointer -/

section Pointer

variable {table : Rect} {column line : Nat}

private theorem rowAt?_of_encloses {place : Nat}
    (inside : table.Encloses column (table.y + 2 + place)) (offset : Nat) :
    rowAt? table offset column (table.y + 2 + place) = some (offset + place) := by
  obtain ⟨left, right, top, bottom⟩ := inside
  rw [Rect.right] at right
  rw [Rect.bottom] at bottom
  have besideFrame : ¬ (column ≤ table.x ∨ table.x + (table.width - 1) ≤ column) := by omega
  have onRow : ¬ (table.y + 2 + place < table.y + 2 ∨
      table.y + (table.height - 1) ≤ table.y + 2 + place) := by omega
  rw [rowAt?, if_neg besideFrame, if_neg onRow, Nat.add_sub_cancel_left]

private theorem rowAt?_of_outside (outside : ¬ (table.Encloses column line ∧ table.y + 2 ≤ line))
    (offset : Nat) : rowAt? table offset column line = none := by
  rw [rowAt?]
  by_cases onFrame : column ≤ table.x ∨ table.x + (table.width - 1) ≤ column
  · rw [if_pos onFrame]
  · have noRow : line < table.y + 2 ∨ table.y + (table.height - 1) ≤ line := by
      by_contra onRow
      refine outside ⟨⟨by omega, ?_, by omega, ?_⟩, by omega⟩
      · rw [Rect.right]
        omega
      · rw [Rect.bottom]
        omega
    rw [if_neg onFrame, if_pos noRow]

end Pointer

namespace EventBrowser

/-! ### Opening a row -/

/-- The detail of an event, seen from its top. -/
def detailOf (event : Event) : EventDetail :=
  ⟨detailTitle event, Highlight.lines event.record, 0⟩

/-- The event of a row was opened: its row is selected, and nothing else changed. -/
structure Opens (browser after : EventBrowser) (row : Nat) (event : Event) : Prop where
  eventAt? : browser.eventAt? row = some event
  opened : after = { browser with selected := row, detail := some (detailOf event) }

section Rows

variable {browser : EventBrowser} {row : Nat}

theorem opens_openDetail {event : Event} (isEvent : browser.eventAt? row = some event) :
    Opens browser (browser.openDetail row).2 row event :=
  ⟨isEvent, by rw [openDetail, isEvent]; rfl⟩

theorem openDetail_of_none (nothing : browser.eventAt? row = none) :
    (browser.openDetail row).2 = browser := by
  rw [openDetail, nothing]

namespace WellFormed

variable (wellFormed : WellFormed browser)
include wellFormed

theorem exists_eventAt? (isRow : row < browser.shown.length) :
    ∃ event, browser.eventAt? row = some event := by
  rw [← wellFormed.getElem?_shownEvents]
  rw [← wellFormed.length_shownEvents] at isRow
  exact ⟨_, List.getElem?_eq_getElem isRow⟩

theorem eventAt?_eq_none (noRow : browser.shown.length ≤ row) : browser.eventAt? row = none := by
  rw [← wellFormed.getElem?_shownEvents]
  rw [← wellFormed.length_shownEvents] at noRow
  exact List.getElem?_eq_none noRow

private theorem selected_lt (someRow : browser.shown ≠ []) :
    browser.selected < browser.shown.length := by
  rcases wellFormed.selected with first | isRow
  · rw [first]
    exact List.length_pos_iff.mpr someRow
  · exact isRow

end WellFormed

end Rows

/-! ### Before the first load -/

/-- As long as nothing was done that has a phase of its own, there are no rows. -/
def StartsEmpty (browser : EventBrowser) : Prop := browser.phase = .idle → browser.shown = []

private theorem phaseOf_ne_idle (shown : List Nat) : phaseOf shown ≠ .idle := by
  cases shown <;> simp [phaseOf]

private theorem phase_applyFilter_ne_idle {browser : EventBrowser}
    (wellFormed : WellFormed browser) : browser.applyFilter.phase ≠ .idle := by
  by_cases waits : browser.loading = true
  · rw [phase_applyFilter_of_waits waits, wellFormed.loading.mp waits]
    exact LoadPhase.noConfusion
  · rw [phase_applyFilter_of_free waits]
    exact phaseOf_ne_idle _

theorem StartsEmpty.operate {browser : EventBrowser} (starts : StartsEmpty browser)
    (wellFormed : WellFormed browser) (operation : Operation) :
    StartsEmpty (browser.operate operation) := by
  have effect := effect_perform browser operation
  unfold EventBrowser.operate
  generalize browser.perform operation = result at effect
  cases effect with
  | looks | edits => exact starts
  | asks | fails | empties => exact fun idle => LoadPhase.noConfusion idle
  | succeeds => exact fun idle => absurd idle (phaseOf_ne_idle _)
  | filters filter isFilter =>
      exact fun idle => absurd idle (phase_applyFilter_ne_idle (wellFormed.withFilter filter))
  | fires now due =>
      have looked : WellFormed { browser with
          searchDelay := { browser.searchDelay with deadline := none } } := { wellFormed with }
      exact fun idle => absurd idle (phase_applyFilter_ne_idle looked)

theorem StartsEmpty.run {browser : EventBrowser} (starts : StartsEmpty browser)
    (wellFormed : WellFormed browser) (operations : List Operation) :
    StartsEmpty (browser.run operations) := by
  induction operations generalizing browser with
  | nil => exact starts
  | cons operation rest inductionHypothesis =>
      exact inductionHypothesis (starts.operate wellFormed operation) (wellFormed.operate operation)

private theorem shown_of_noData {browser : EventBrowser} (wellFormed : WellFormed browser)
    (starts : StartsEmpty browser) (shows : browser.content = .noData) : browser.shown = [] := by
  unfold content at shows
  split at shows
  case h_3 idle => exact starts idle
  case h_4 empty => exact wellFormed.empty empty
  case h_5 rendered =>
    split at shows
    case isTrue nothing => exact List.isEmpty_iff.mp nothing
    case isFalse => contradiction
  all_goals contradiction

/-! ### Input -/

/-- A browser after Enter, with the search box not in use. -/
def afterEnter (browser : EventBrowser) (now : Int) : EventBrowser :=
  (browser.handleKey false .enter now).2.browser

/-- A browser after a click on a drawn screen. -/
def afterClick (browser : EventBrowser) (screen : View.EventsScreen) (detailArea : Option Rect)
    (column line : Nat) : EventBrowser :=
  (browser.handleMouse screen.layout screen.table.offset detailArea ⟨.leftDown, column, line⟩).2

section Input

variable {browser : EventBrowser} (closed : browser.detail = none)
include closed

theorem afterEnter_eq (now : Int) :
    browser.afterEnter now = (browser.openDetail browser.selected).2 := by
  rw [afterEnter, handleKey, closed]
  rfl

private theorem handleKey_searching (now : Int) :
    (browser.handleKey true .enter now).2.browser = browser := by
  rw [handleKey, closed]
  rfl

variable {canvas : Canvas} {area : Rect} {view : TableView} {focused : Bool}

/-- A click inside the frame and below the header opens the row there. -/
theorem afterClick_of_encloses (detailArea : Option Rect) {column place : Nat} :
    let screen := View.drawEvents canvas area browser view focused
    screen.layout.table.Encloses column (screen.layout.table.y + 2 + place) →
      browser.afterClick screen detailArea column (screen.layout.table.y + 2 + place) =
        (browser.openDetail (screen.table.offset + place)).2 := by
  intro screen inside
  have noButton : screen.layout.previous.contains column _ = false ∧
      screen.layout.next.contains column _ = false :=
    View.contains_button_eq_false (Nat.lt_of_succ_lt inside.bottom)
  rw [afterClick, handleMouse, closed]
  simp only [Option.isSome_none, Bool.false_eq_true, if_false]
  rw [handleClick, noButton.1, noButton.2, rowAt?_of_encloses inside]
  rfl

/-- A click anywhere else leaves the browser as it is. -/
theorem afterClick_of_outside (screen : View.EventsScreen) (detailArea : Option Rect)
    {column line : Nat}
    (outside : ¬ (screen.layout.table.Encloses column line ∧ screen.layout.table.y + 2 ≤ line)) :
    browser.afterClick screen detailArea column line = browser := by
  rw [afterClick, handleMouse, closed]
  simp only [Option.isSome_none, Bool.false_eq_true, if_false]
  rw [handleClick, rowAt?_of_outside outside]
  split
  · rfl
  · split <;> rfl

end Input

/-! ### Screens -/

/-- What a screen of rows shows and opens: the row selected by a key, the row under
the pointer by a click. -/
structure OpensRows (browser : EventBrowser) (before : Canvas) (screen : View.EventsScreen)
    (rows : List Row) : Prop where
  /-- Every line below the header is that of a row, as far as there are rows. -/
  drawn : ∀ place, screen.table.offset + place < rows.length →
    before.ShowsRow screen.canvas screen.layout.table (View.tableOf rows) (some browser.selected)
      (screen.layout.table.y + 2 + place) (screen.table.offset + place)
  /-- The selected row is in view, if any row is. -/
  selected : 2 < screen.layout.table.width → 3 < screen.layout.table.height →
    ∃ place, screen.layout.table.y + 2 + place + 1 < screen.layout.table.bottom ∧
      screen.table.offset + place = browser.selected
  enter : ∀ now, ∃ event, rows[browser.selected]? = some (Row.ofEvent event) ∧
    Opens browser (browser.afterEnter now) browser.selected event
  click : ∀ detailArea column place,
    screen.layout.table.Encloses column (screen.layout.table.y + 2 + place) →
      screen.table.offset + place < rows.length →
        ∃ event, rows[screen.table.offset + place]? = some (Row.ofEvent event) ∧
          Opens browser
            (browser.afterClick screen detailArea column (screen.layout.table.y + 2 + place))
            (screen.table.offset + place) event
  belowRows : ∀ detailArea column place,
    screen.layout.table.Encloses column (screen.layout.table.y + 2 + place) →
      rows.length ≤ screen.table.offset + place →
        browser.afterClick screen detailArea column (screen.layout.table.y + 2 + place) = browser

/-- A screen from which nothing can be opened. -/
structure OpensNothing (browser : EventBrowser) (screen : View.EventsScreen) : Prop where
  enter : ∀ now, browser.afterEnter now = browser
  click : ∀ detailArea column line, browser.afterClick screen detailArea column line = browser

/-- What a screen opens that shows a notice: the rows that were kept, as if they
stood in its place from the first on. -/
structure OpensKept (browser : EventBrowser) (screen : View.EventsScreen) : Prop where
  enter : ∀ now, ∃ event, Opens browser (browser.afterEnter now) browser.selected event
  click : ∀ detailArea column place,
    screen.layout.table.Encloses column (screen.layout.table.y + 2 + place) →
      place < browser.shown.length →
        ∃ event, Opens browser
          (browser.afterClick screen detailArea column (screen.layout.table.y + 2 + place)) place
          event
  belowRows : ∀ detailArea column place,
    screen.layout.table.Encloses column (screen.layout.table.y + 2 + place) →
      browser.shown.length ≤ place →
        browser.afterClick screen detailArea column (screen.layout.table.y + 2 + place) = browser

/-- What Enter and a click open on a screen with no detail: nothing while text is
being typed and nothing beside the lines of the rows; on these, by what the table
shows. -/
structure Openings (browser : EventBrowser) (before : Canvas) (screen : View.EventsScreen) :
    Prop where
  searching : ∀ now, (browser.handleKey true .enter now).2.browser = browser
  beside : ∀ detailArea column line,
    ¬ (screen.layout.table.Encloses column line ∧ screen.layout.table.y + 2 ≤ line) →
      browser.afterClick screen detailArea column line = browser
  rows : ∀ rows, browser.content = .rows rows → OpensRows browser before screen rows
  noData : browser.content = .noData → OpensNothing browser screen
  notice : browser.content = .loading ∨ browser.content = .failed →
    if browser.shown = [] then OpensNothing browser screen else OpensKept browser screen

section Screens

variable {browser : EventBrowser} (wellFormed : WellFormed browser)
  (closed : browser.detail = none) {canvas : Canvas} {area : Rect} {view : TableView}
  {focused : Bool}
include wellFormed closed

private theorem opensRows_drawEvents (holds : canvas.Holds area) {rows : List Row}
    (shows : browser.content = .rows rows) :
    OpensRows browser canvas (View.drawEvents canvas area browser view focused) rows := by
  have rowsOf := wellFormed.rowsOf_of_content shows
  have isRow : browser.selected < rows.length := by
    rw [rowsOf.count]
    exact wellFormed.selected_lt (Exchange.content_eq_rows shows).2
  have exists_event (row : Nat) (inRange : row < rows.length) :
      ∃ event, rows[row]? = some (Row.ofEvent event) ∧
        Opens browser (browser.openDetail row).2 row event := by
    obtain ⟨event, isEvent⟩ := wellFormed.exists_eventAt? (rowsOf.count ▸ inRange)
    refine ⟨event, ?_, opens_openDetail isEvent⟩
    rw [rowsOf.inOrder, isEvent, Option.map_some]
  constructor
  case drawn =>
    intro place inRange
    have kept : (View.tableOf rows).selectedRow (some browser.selected) = some browser.selected :=
      Table.selectedRow_of_lt (by rwa [View.length_tableOf])
    have shown := View.showsRow_drawEvents holds shows inRange
    rwa [kept] at shown
  case selected => exact View.exists_line_of_selected_drawEvents shows isRow
  case enter =>
    intro now
    rw [afterEnter_eq closed]
    exact exists_event browser.selected isRow
  case click =>
    intro detailArea column place inside inRange
    rw [afterClick_of_encloses closed detailArea inside]
    exact exists_event _ inRange
  case belowRows =>
    intro detailArea column place inside noRow
    rw [afterClick_of_encloses closed detailArea inside]
    exact openDetail_of_none (wellFormed.eventAt?_eq_none (rowsOf.count ▸ noRow))

/-- A notice is not scrolled, so that the kept rows open from the first on. -/
theorem opensKept_drawEvents (noRows : ∀ rows, browser.content ≠ .rows rows)
    (someKept : browser.shown ≠ []) :
    OpensKept browser (View.drawEvents canvas area browser view focused) := by
  have top (place : Nat) :
      (View.drawEvents canvas area browser view focused).table.offset + place = place := by
    rw [View.offset_drawEvents noRows, Nat.zero_add]
  constructor
  case enter =>
    intro now
    obtain ⟨event, isEvent⟩ := wellFormed.exists_eventAt? (wellFormed.selected_lt someKept)
    rw [afterEnter_eq closed]
    exact ⟨event, opens_openDetail isEvent⟩
  case click =>
    intro detailArea column place inside isKept
    obtain ⟨event, isEvent⟩ := wellFormed.exists_eventAt? isKept
    rw [afterClick_of_encloses closed detailArea inside, top]
    exact ⟨event, opens_openDetail isEvent⟩
  case belowRows =>
    intro detailArea column place inside noRow
    rw [afterClick_of_encloses closed detailArea inside, top]
    exact openDetail_of_none (wellFormed.eventAt?_eq_none noRow)

private theorem opensNothing_drawEvents (noRow : browser.shown = []) :
    OpensNothing browser (View.drawEvents canvas area browser view focused) := by
  have nothing (row : Nat) : (browser.openDetail row).2 = browser := by
    refine openDetail_of_none (wellFormed.eventAt?_eq_none ?_)
    rw [noRow]
    exact Nat.zero_le row
  constructor
  case enter =>
    intro now
    rw [afterEnter_eq closed]
    exact nothing browser.selected
  case click =>
    intro detailArea column line
    by_cases onRow : (View.drawEvents canvas area browser view focused).layout.table.Encloses
        column line ∧ (View.drawEvents canvas area browser view focused).layout.table.y + 2 ≤ line
    · obtain ⟨place, rfl⟩ := Nat.exists_eq_add_of_le onRow.2
      rw [afterClick_of_encloses closed detailArea onRow.1]
      exact nothing _
    · exact afterClick_of_outside closed _ detailArea onRow

end Screens

/-- Whatever was done before, and on a canvas of any size: rows in view open as they
are drawn, and where there are none nothing opens; but behind a notice the rows of an
earlier page open unseen. -/
theorem openings_run (size : UInt32) (operations : List Operation) {canvas : Canvas} {area : Rect}
    (holds : canvas.Holds area) (view : TableView) (focused : Bool)
    (closed : ((withPageSize size).run operations).detail = none) :
    let browser := (withPageSize size).run operations
    Openings browser canvas (View.drawEvents canvas area browser view focused) := by
  intro browser
  have wellFormed : WellFormed browser := (wellFormed_withPageSize size).run operations
  have starts : StartsEmpty browser :=
    StartsEmpty.run (fun _ => rfl) (wellFormed_withPageSize size) operations
  constructor
  case searching => exact handleKey_searching closed
  case beside =>
    intro detailArea column line outside
    exact afterClick_of_outside closed _ detailArea outside
  case rows =>
    intro rows shows
    exact opensRows_drawEvents wellFormed closed holds shows
  case noData =>
    intro shows
    exact opensNothing_drawEvents wellFormed closed (shown_of_noData wellFormed starts shows)
  case notice =>
    intro shows
    have noRows : ∀ rows, browser.content ≠ .rows rows := by
      intro rows isRows
      rcases shows with isNotice | isNotice <;> exact TableContent.noConfusion (isNotice ▸ isRows)
    split
    case isTrue nothing => exact opensNothing_drawEvents wellFormed closed nothing
    case isFalse someKept => exact opensKept_drawEvents wellFormed closed noRows someKept

def loginEvent : Event := { (default : Event) with message := some "login" }

def loginPage : EventsPage :=
  { (default : EventsPage) with status := some "success", data := some [loginEvent] }

theorem openings_loginPage :
    let browser := (withPageSize 50).run [.load, .finish (.ok loginPage)]
    browser.content = .rows [Row.ofEvent loginEvent] ∧
      Openings browser (Canvas.blank 80 24)
        (View.drawEvents (Canvas.blank 80 24) ⟨0, 1, 80, 23⟩ browser TableView.initial false) :=
  ⟨rfl, openings_run 50 [.load, .finish (.ok loginPage)] ⟨by decide, by decide⟩
    TableView.initial false rfl⟩

/-- While the page is loaded again, Enter opens the event that the notice hides. -/
example :
    let browser := (withPageSize 50).run [.load, .finish (.ok loginPage), .load]
    browser.content = .loading ∧ (browser.afterEnter 0).detail = some (detailOf loginEvent) :=
  ⟨rfl, rfl⟩

end EventBrowser

end EventConsole
