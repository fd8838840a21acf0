import EventConsole.Proofs.Screen.Layout
import EventConsole.Proofs.Screen.Paragraph
import EventConsole.Proofs.Screen.Table
import EventConsole.View.Events

/-!
Contract: where the events screen shows its rows and its buttons.

Owns: that filter, table and page line share no line; which row of the browser is
on which line of the drawn screen; that the buttons are below the table, and that
their places are where their labels are drawn.

Does not own: what a click or a key opens (`EventBrowser.Opening`).
-/

namespace EventConsole.View

open Screen Screen.Canvas

/-! ### Parts of the screen -/

/-- The heights of the filter, the table and the page line. -/
def screenSizes : List Layout.Size := [.fixed 3, .atLeast 5, .fixed 1]

private theorem fit_of_high {total : Nat} (high : 9 ≤ total) :
    (Layout.extents total total screenSizes).Fit total := by
  have least : min 5 total = 5 := Nat.min_eq_left (by omega)
  have room : ¬ total - 5 < 4 := by omega
  have found : Layout.extents total total screenSizes =
      ⟨[300, 500 + (total - 5 - 4) * 100, 100], 100⟩ := by
    simp [Layout.extents, screenSizes, Layout.leastSizes, Layout.shareSizes, Layout.fixedSize,
      Layout.growFirst, Layout.precision, sumOf, least, room]
  rw [found]
  refine ⟨Nat.zero_lt_succ 99, ?_⟩
  simp only [sumOf]
  omega

private theorem fit_of_low : ∀ total < 9,
    0 < (Layout.extents total total screenSizes).unitsPerCell ∧
      sumOf (Layout.extents total total screenSizes).sizes ≤
        total * (Layout.extents total total screenSizes).unitsPerCell := by
  decide

/-- Filter, table and page line take no more than there is. -/
theorem fit_screenSizes (total : Nat) : (Layout.extents total total screenSizes).Fit total := by
  rcases Nat.lt_or_ge total 9 with low | high
  · exact ⟨(fit_of_low total low).1, (fit_of_low total low).2⟩
  · exact fit_of_high high

/-- The area of one of the three parts. -/
def screenPart (area : Rect) (index : Nat) : Rect :=
  Layout.part (Layout.rows area screenSizes) index

private theorem isOff_screenPart {area : Rect} {column line index : Nat} (other : index ≠ 1)
    (inside : (screenPart area 1).Encloses column line) : (screenPart area index).IsOff line :=
  Layout.isOff_part_rows (fit_screenSizes area.height) other (Nat.le_of_lt inside.top)
    (Nat.lt_of_succ_lt inside.bottom)

private theorem alike_drawFilter {area : Rect} {column line : Nat} (off : area.IsOff line)
    (canvas : Canvas) (browser : EventBrowser) (focused : Bool) :
    Alike column line canvas (drawFilter canvas area browser focused) := by
  have offPanel := Layout.isOff_part_columns off [.atLeast 20, .fixed 20, .fixed 28, .fixed 16]
  exact ((alike_drawPanel (offPanel 0) canvas _ _).trans (alike_drawPanel (offPanel 1) _ _ _)).trans
    ((alike_drawPanel (offPanel 2) _ _ _).trans (alike_drawPanel (offPanel 3) _ _ _))

/-! ### The table -/

/-- The table of events with some rows. -/
def tableOf (rows : List EventBrowser.Row) : Table := eventTable (rows.map eventCells) eventColumns

theorem length_tableOf (rows : List EventBrowser.Row) :
    (tableOf rows).rows.length = rows.length :=
  List.length_map _

section Table

variable {canvas : Canvas} {area : Rect} {browser : EventBrowser} {view : TableView}

private theorem drawEventTable_of_rows {rows : List EventBrowser.Row}
    (shows : browser.content = .rows rows) :
    drawEventTable canvas area browser view =
      canvas.drawTable area (tableOf rows) (view.select (some browser.selected)) := by
  rw [drawEventTable, shows]
  rfl

/-- A notice is not scrolled. -/
theorem offset_drawEventTable (noRows : ∀ rows, browser.content ≠ .rows rows) :
    (drawEventTable canvas area browser view).2.offset = 0 := by
  rw [drawEventTable]
  split
  case h_1 rows shows => exact absurd shows (noRows rows)
  case h_2 => exact drawTable_offset_of_none (List.cons_ne_nil _ _)

end Table

/-! ### Buttons -/

theorem contains_of_above {area : Rect} {column line : Nat} (above : line < area.y) :
    area.contains column line = false := by
  have outside : ¬ area.y ≤ line := Nat.not_le.mpr above
  simp [Rect.contains, outside]

private theorem contains_of_noWidth {area : Rect} {column line : Nat} (noWidth : area.width = 0) :
    area.contains column line = false := by
  have outside : ¬ (area.x ≤ column ∧ column < area.right) := by
    rw [Rect.right, noWidth]
    omega
  simp only [Rect.contains, Bool.and_eq_false_iff, decide_eq_false_iff_not]
  omega

private theorem contains_button_of_above {area : Rect} {column line : Nat} (above : line < area.y)
    (pagination : EventBrowser.Pagination) :
    (previousArea area).contains column line = false ∧
      (nextArea area pagination).contains column line = false := by
  simp only [previousArea, nextArea]
  exact ⟨contains_of_above above, contains_of_above above⟩

private theorem contains_button_of_empty (column line : Nat)
    (pagination : EventBrowser.Pagination) :
    (previousArea Rect.empty).contains column line = false ∧
      (nextArea Rect.empty pagination).contains column line = false := by
  simp only [previousArea, nextArea, Rect.empty, Nat.zero_sub, Nat.min_zero]
  exact ⟨contains_of_noWidth rfl, contains_of_noWidth rfl⟩

/-! ### The page line -/

/-- The arrows of the buttons take one cell, too. -/
theorem allSingle_labels : Text.AllSingle (previousLabel.toList ++ nextLabel.toList) := by
  decide +kernel

private theorem allSingle_pageText (pagination : EventBrowser.Pagination) :
    Text.AllSingle (pageText pagination).toList := by
  unfold pageText
  simp only [String.toList_append]
  refine (((Text.AllSingle.append ?head ?page).append ?slash).append ?pages).append ?tail
  case page => exact Text.allSingle_toString pagination.page.toNat
  case pages => exact Text.allSingle_toString pagination.totalPages.toNat
  all_goals decide

private theorem allSingle_label (pagination : EventBrowser.Pagination) :
    Text.AllSingle pagination.label.toList := by
  unfold EventBrowser.Pagination.label
  split
  · decide
  · simp only [String.toList_append]
    refine ((((Text.AllSingle.append ?head ?start).append ?dash).append ?stop).append ?of).append
      ?total
    case start => exact Text.allSingle_toString pagination.start.toNat
    case stop => exact Text.allSingle_toString pagination.stop.toNat
    case total => exact Text.allSingle_toString pagination.total.toNat
    all_goals decide

/-- Every character of the page line takes one cell. -/
theorem isSingle_pageLine (pagination : EventBrowser.Pagination) :
    (pageLine pagination).IsSingle := by
  have gap : Text.AllSingle "   ".toList := by decide
  simp only [Line.IsSingle, pageLine, List.forall_mem_cons]
  refine ⟨?previous, allSingle_pageText pagination, ?next, ?label, fun _ => List.not_mem_nil.elim⟩
  case previous =>
    intro c isCharacter
    exact allSingle_labels c (List.mem_append_left _ isCharacter)
  case next =>
    intro c isCharacter
    exact allSingle_labels c (List.mem_append_right _ isCharacter)
  case label =>
    show Text.AllSingle ("   " ++ pagination.label).toList
    rw [String.toList_append]
    exact gap.append (allSingle_label pagination)

/-- The places of the buttons are where their labels are drawn, and apart. -/
structure ButtonsAsDrawn (canvas : Canvas) (area : Rect) (pagination : EventBrowser.Pagination) :
    Prop where
  previous : ∀ column line, (previousArea area).contains column line = true ↔
    canvas.DrawsSpanAt area (pageLine pagination) 0 column line
  next : ∀ column line, (nextArea area pagination).contains column line = true ↔
    canvas.DrawsSpanAt area (pageLine pagination) 2 column line
  previousReads : (canvas.drawParagraph area [pageLine pagination]).Reads (previousArea area)
    previousLabel.toList
  nextReads : (canvas.drawParagraph area [pageLine pagination]).Reads (nextArea area pagination)
    nextLabel.toList
  apart : ∀ column line, (previousArea area).contains column line = true →
    (nextArea area pagination).contains column line = false
  inside : ∀ column line, (previousArea area).contains column line = true ∨
    (nextArea area pagination).contains column line = true → area.contains column line = true
  oneCell : ∀ c ∈ previousLabel.toList ++ nextLabel.toList, Text.textWidth [c] = 1

private theorem placesSpan_previousArea (area : Rect) (style : Style) :
    PlacesSpan area [] (Span.styled previousLabel style) (previousArea area) where
  top := rfl
  flat := rfl
  width := by
    show min previousLabel.length area.width = min previousLabel.toList.length (area.width - 0)
    rw [String.length_toList, Nat.sub_zero]
  left := fun _ => rfl

/-- What is before the label of the second button. -/
theorem columnsOf_beforeNext (pagination : EventBrowser.Pagination) (style : Style) :
    columnsOf [Span.styled previousLabel style, Span.plain (pageText pagination)] =
      previousLabel.length + (pageText pagination).length := by
  simp [columnsOf, Span.characters, Span.styled, Span.plain, String.length_toList]

/-- A button that begins inside its area has a column that fits its word. -/
theorem placesSpan_nextArea {area : Rect} (fits : area.right < powerOf 2 16)
    (pagination : EventBrowser.Pagination) (style nextStyle : Style) :
    PlacesSpan area [Span.styled previousLabel style, Span.plain (pageText pagination)]
      (Span.styled nextLabel nextStyle) (nextArea area pagination) := by
  have width : (nextArea area pagination).width = min nextLabel.length
    (area.width - (previousLabel.length + (pageText pagination).length)) := rfl
  refine { top := by simp only [nextArea], flat := rfl, width := ?width, left := ?left }
  case width =>
    rw [columnsOf_beforeNext, width, ← String.length_toList]
    rfl
  case left =>
    intro wide
    rw [Rect.right] at fits
    rw [columnsOf_beforeNext]
    apply Nat.mod_eq_of_lt
    omega

/-- On an area of one row of a screen, whatever the page and however wide the area. -/
theorem buttonsAsDrawn {canvas : Canvas} (isFull : canvas.IsFull) {area : Rect}
    (holds : canvas.Holds area) (flat : area.height = 1) (fits : area.right < powerOf 2 16)
    (pagination : EventBrowser.Pagination) : ButtonsAsDrawn canvas area pagination := by
  have single := isSingle_pageLine pagination
  have previous := placesSpan_previousArea area (buttonStyle pagination.canGoBack)
  have next := placesSpan_nextArea fits pagination (buttonStyle pagination.canGoBack)
    (buttonStyle pagination.canGoOn)
  have previousParts : (pageLine pagination).spans =
      [] ++ Span.styled previousLabel (buttonStyle pagination.canGoBack) ::
        (pageLine pagination).spans.drop 1 := rfl
  have nextParts : (pageLine pagination).spans =
      [Span.styled previousLabel (buttonStyle pagination.canGoBack),
        Span.plain (pageText pagination)] ++
      Span.styled nextLabel (buttonStyle pagination.canGoOn) ::
        (pageLine pagination).spans.drop 3 := rfl
  refine
    { previous := previous.contains_iff_drawsSpanAt flat isFull holds single previousParts
      next := next.contains_iff_drawsSpanAt flat isFull holds single nextParts
      previousReads := previous.reads flat isFull holds single previousParts
      nextReads := next.reads flat isFull holds single nextParts
      apart := ?apart, inside := ?inside, oneCell := ?oneCell }
  case apart =>
    intro column line onPrevious
    refine Bool.eq_false_iff.mpr fun onNext => ?_
    -- The second label begins behind the first one.
    have early := ((previous.contains_iff_onSpan flat column line).mp onPrevious).within
    have late := ((next.contains_iff_onSpan flat column line).mp onNext).behind
    rw [columnsOf_beforeNext, ← String.length_toList] at late
    have inLabel : column - area.x < 0 + previousLabel.toList.length := early
    omega
  case inside =>
    rintro column line (onPrevious | onNext)
    · exact ((previous.contains_iff_onSpan flat column line).mp onPrevious).inside
    · exact ((next.contains_iff_onSpan flat column line).mp onNext).inside
  case oneCell => exact fun c isCharacter => (allSingle_labels c isCharacter).oneCell

/-- A place that cuts the second button of a fresh browser in half. -/
theorem buttonsAsDrawn_half :
    ButtonsAsDrawn (Canvas.blank 40 9) ⟨7, 8, 24, 1⟩ EventBrowser.new.pagination ∧
      (nextArea ⟨7, 8, 24, 1⟩ EventBrowser.new.pagination).width = 4 := by
  refine ⟨buttonsAsDrawn (Canvas.isFull_blank 40 9) ⟨?_, ?_⟩ rfl ?_ _, ?_⟩
  all_goals decide

/-! ### The screen -/

section Screen

variable {canvas : Canvas} {area : Rect} {browser : EventBrowser} {view : TableView}
  {focused : Bool}

/-- The screen with its filter drawn. -/
def filterDrawn (canvas : Canvas) (area : Rect) (browser : EventBrowser) (focused : Bool) :
    Canvas := drawFilter canvas (screenPart area 0) browser focused

theorem drawEvents_eq :
    drawEvents canvas area browser view focused =
      let drawn := drawEventTable (filterDrawn canvas area browser focused) (screenPart area 1)
        browser view
      ⟨drawn.1.drawParagraph (screenPart area 2) [pageLine browser.pagination], drawn.2,
        ⟨screenPart area 1, previousArea (screenPart area 2),
          nextArea (screenPart area 2) browser.pagination⟩⟩ := rfl

theorem drawEvents_of_rows {rows : List EventBrowser.Row} (shows : browser.content = .rows rows) :
    drawEvents canvas area browser view focused =
      let drawn := (filterDrawn canvas area browser focused).drawTable (screenPart area 1)
        (tableOf rows) (view.select (some browser.selected))
      ⟨drawn.1.drawParagraph (screenPart area 2) [pageLine browser.pagination], drawn.2,
        ⟨screenPart area 1, previousArea (screenPart area 2),
          nextArea (screenPart area 2) browser.pagination⟩⟩ := by
  rw [drawEvents_eq, drawEventTable_of_rows shows]

theorem offset_drawEvents (noRows : ∀ rows, browser.content ≠ .rows rows) :
    (drawEvents canvas area browser view focused).table.offset = 0 :=
  offset_drawEventTable noRows

/-- The filter leaves the lines of the table as they were. -/
theorem alike_filterDrawn {column line : Nat} (off : (screenPart area 0).IsOff line) :
    Alike column line canvas (filterDrawn canvas area browser focused) :=
  alike_drawFilter off canvas browser focused

/-- The filter leaves the canvas its size, so that the table is still on it. -/
theorem holds_filterDrawn (holds : canvas.Holds area) :
    (filterDrawn canvas area browser focused).Holds (screenPart area 1) := by
  have onCanvas : canvas.Holds (screenPart area 1) :=
    Layout.holds_part_rows (fit_screenSizes area.height) holds 1
  have below : (screenPart area 0).IsOff (screenPart area 0).bottom := .inr (Nat.le_refl _)
  have size : Alike 0 _ canvas (filterDrawn canvas area browser focused) :=
    alike_filterDrawn below
  exact ⟨size.width ▸ onCanvas.right, size.height ▸ onCanvas.bottom⟩

/-- The rows of the browser stand below the header, one on each line. -/
theorem showsRow_drawEvents (holds : canvas.Holds area) {rows : List EventBrowser.Row}
    (shows : browser.content = .rows rows) {place : Nat}
    (isRow : (drawEvents canvas area browser view focused).table.offset + place < rows.length) :
    let screen := drawEvents canvas area browser view focused
    ShowsRow canvas screen.canvas screen.layout.table (tableOf rows)
      ((tableOf rows).selectedRow (some browser.selected))
      (screen.layout.table.y + 2 + place) (screen.table.offset + place) := by
  intro screen
  have drawn : screen = _ := drawEvents_of_rows shows
  rw [← length_tableOf] at isRow
  rw [drawEvents_of_rows shows] at isRow
  rw [drawn]
  dsimp only at isRow ⊢
  refine ⟨_, List.getElem?_eq_getElem isRow, fun column inside => ?_⟩
  have filterOff : (screenPart area 0).IsOff _ := isOff_screenPart Nat.zero_ne_one inside
  have pageOff : (screenPart area 2).IsOff _ := isOff_screenPart (Nat.succ_ne_self 1) inside
  have filtered : Alike column _ canvas (filterDrawn canvas area browser focused) :=
    alike_filterDrawn filterOff
  have framed : (tableOf rows).block.borders = .all := rfl
  have onLine := (filtered.drawLoneRow _ _ _ _ _ _).trans
    (alike_drawTable (holds_filterDrawn holds) framed inside (List.getElem?_eq_getElem isRow))
  exact (onLine.trans (alike_drawParagraph pageOff _ _)).cell.symm

/-- The selected row has a line of its own, if any row has. -/
theorem exists_line_of_selected_drawEvents {rows : List EventBrowser.Row}
    (shows : browser.content = .rows rows) (isRow : browser.selected < rows.length) :
    let screen := drawEvents canvas area browser view focused
    2 < screen.layout.table.width → 3 < screen.layout.table.height →
      ∃ place, screen.layout.table.y + 2 + place + 1 < screen.layout.table.bottom ∧
        screen.table.offset + place = browser.selected := by
  intro screen
  have drawn : screen = _ := drawEvents_of_rows shows
  have selected : (view.select (some browser.selected)).selected = some browser.selected := rfl
  have framed : (tableOf rows).block.borders = .all := rfl
  rw [← length_tableOf] at isRow
  rw [drawn]
  dsimp only
  exact exists_line_of_selected isRow selected framed

/-- No button is on a line of the table. -/
theorem contains_button_eq_false {column line : Nat} :
    let layout := (drawEvents canvas area browser view focused).layout
    line < layout.table.bottom →
      layout.previous.contains column line = false ∧ layout.next.contains column line = false := by
  intro layout above
  have buttons : layout = _ := congrArg EventsScreen.layout drawEvents_eq
  rw [buttons] at above ⊢
  dsimp only at above ⊢
  have below : screenPart area 2 = Rect.empty ∨
      (screenPart area 1).bottom ≤ (screenPart area 2).y :=
    Layout.bottom_part_rows_le (fit_screenSizes area.height) (Nat.lt_succ_self 1)
  rcases below with nowhere | below
  · rw [nowhere]
    exact contains_button_of_empty column line browser.pagination
  · exact contains_button_of_above (Nat.lt_of_lt_of_le above below) browser.pagination

end Screen

end EventConsole.View
