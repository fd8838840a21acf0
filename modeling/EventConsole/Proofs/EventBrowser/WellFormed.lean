import EventConsole.Proofs.EventBrowser.Requests
import EventConsole.Proofs.Highlight

/-!
Contract: the parts of a browser fit together, whatever is done to it.

Owns: the invariant of the state, one lemma for each operation that restores it,
the invariant over all runs, and what the table shows of a state that has it.

Does not own: which events the rows come from (`EventBrowser.Requests`,
`EventBrowser.Detail`), and whether they follow the filter
(`EventBrowser.Filtering`).
-/

namespace EventConsole

private theorem EventsPage.one_le_pageCount (page : EventsPage) : 1 ≤ page.pageCount := by
  have positive : ∀ count : UInt32, 0 < count → 1 ≤ count := by
    intro count positive
    rw [UInt32.lt_iff_toNat_lt] at positive
    rw [UInt32.le_iff_toNat_le]
    exact positive
  unfold EventsPage.pageCount
  cases chosen : page.totalPages.filter (fun count => 0 < count) with
  | none => simp
  | some count =>
      have isPositive := (Option.filter_eq_some_iff.mp chosen).2
      exact positive count (of_decide_eq_true isPositive)

namespace EventBrowser

/-- Positions ascend inside the page, the selection is a row or the first, pages
are counted from one, the phase tells whether a fetch is outstanding and whether
there are rows, and an open detail has something to show. -/
structure WellFormed (browser : EventBrowser) : Prop where
  ascending : browser.shown.Pairwise (· < ·)
  inRange : ∀ position ∈ browser.shown, position < browser.loaded.length
  selected : browser.selected = 0 ∨ browser.selected < browser.shown.length
  currentPage : 1 ≤ browser.currentPage
  pageSize : 1 ≤ browser.pageSize
  totalPages : 1 ≤ browser.totalPages
  loading : browser.loading = true ↔ browser.phase = .loading
  rendered : browser.phase = .rendered → browser.shown ≠ []
  empty : browser.phase = .empty → browser.shown = []
  detail : ∀ detail, browser.detail = some detail → detail.lines ≠ []

/-! ### Rows and phases -/

theorem clampRow_cases (rows : List Nat) (row : Nat) :
    clampRow rows row = 0 ∨ clampRow rows row < rows.length := by
  unfold clampRow
  omega

theorem phaseOf_eq_rendered_iff {shown : List Nat} : phaseOf shown = .rendered ↔ shown ≠ [] := by
  cases shown <;> simp [phaseOf]

theorem phaseOf_eq_empty_iff {shown : List Nat} : phaseOf shown = .empty ↔ shown = [] := by
  cases shown <;> simp [phaseOf]

private theorem phaseOf_ne_loading (shown : List Nat) : phaseOf shown ≠ .loading := by
  cases shown <;> simp [phaseOf]

/-- The rows of a filter ascend, since they are picked from all positions in order. -/
theorem ascending_admitted (filter : EventFilter) (events : List Event) :
    (admitted filter events).Pairwise (· < ·) := by
  rw [admitted_eq_filter]
  exact List.Pairwise.filter _ List.pairwise_lt_range

private theorem lt_length_of_mem_admitted {filter : EventFilter} {events : List Event}
    {position : Nat}
    (isAdmitted : position ∈ admitted filter events) : position < events.length := by
  rw [admitted_eq_filter, List.mem_filter] at isAdmitted
  exact List.mem_range.mp isAdmitted.1

theorem lines_ne_nil (record : Json.Value) : Highlight.lines record ≠ [] := by
  unfold Highlight.lines
  intro noLines
  exact Json.Value.prettyLines_ne_nil record (List.map_eq_nil_iff.mp noLines)

theorem phase_applyFilter_of_waits {browser : EventBrowser} (waits : browser.loading = true) :
    browser.applyFilter.phase = browser.phase :=
  if_pos waits

theorem phase_applyFilter_of_free {browser : EventBrowser} (free : ¬ browser.loading = true) :
    browser.applyFilter.phase = phaseOf browser.applyFilter.shown :=
  if_neg free

theorem wellFormed_withPageSize (size : UInt32) : WellFormed (withPageSize size) where
  ascending := List.Pairwise.nil
  inRange := fun _ => List.not_mem_nil.elim
  selected := .inl rfl
  currentPage := UInt32.le_refl 1
  pageSize := by
    show 1 ≤ max size 1
    rw [UInt32.max_def]
    split
    · exact UInt32.le_refl 1
    · exact UInt32.le_of_lt (UInt32.not_le.mp ‹_›)
  totalPages := UInt32.le_refl 1
  loading := by simp [withPageSize]
  rendered := by simp [withPageSize]
  empty := fun _ => rfl
  detail := by simp [withPageSize]

/-- The page after one that is not the last does not wrap around. -/
theorem toNat_succ_of_lt {page pages : UInt32} (below : page < pages) :
    (page + 1).toNat = page.toNat + 1 := by
  rw [UInt32.lt_iff_toNat_lt] at below
  have bound := pages.toNat_lt
  rw [UInt32.toNat_add]
  exact Nat.mod_eq_of_lt (Nat.lt_of_le_of_lt below bound)

namespace WellFormed

variable {browser : EventBrowser} (wellFormed : WellFormed browser)

include wellFormed

/-! ### Fetches -/

/-- A fetch of any page counted from one. -/
theorem loadPage {page : UInt32} (counted : 1 ≤ page) :
    WellFormed (load { browser with currentPage := page }).2 := by
  rw [load_eq]
  split
  · exact { wellFormed with currentPage := counted }
  · exact
      { wellFormed with
        currentPage := counted
        loading := by simp
        rendered := by simp
        empty := by simp }

theorem previousPage : WellFormed browser.previousPage.2 := by
  unfold EventBrowser.previousPage
  by_cases mayGo : browser.canGoBack = true
  · rw [if_pos mayGo]
    rw [canGoBack, Bool.and_eq_true, decide_eq_true_iff] at mayGo
    apply wellFormed.loadPage
    -- The page is above the first, so that one less does not wrap around.
    have above := mayGo.1
    rw [UInt32.lt_iff_toNat_lt] at above
    rw [UInt32.le_iff_toNat_le, UInt32.toNat_sub_of_le]
    · exact Nat.le_sub_one_of_lt above
    · rw [UInt32.le_iff_toNat_le]
      exact Nat.le_of_lt above
  · rw [if_neg mayGo]
    exact wellFormed

theorem nextPage : WellFormed browser.nextPage.2 := by
  unfold EventBrowser.nextPage
  by_cases mayGo : browser.canGoOn = true
  · rw [if_pos mayGo]
    rw [canGoOn, Bool.and_eq_true, decide_eq_true_iff] at mayGo
    apply wellFormed.loadPage
    rw [UInt32.le_iff_toNat_le, toNat_succ_of_lt mayGo.1]
    exact Nat.le_add_left 1 _
  · rw [if_neg mayGo]
    exact wellFormed

theorem finishLoad (outcome : Except Failure EventsPage) :
    WellFormed (browser.finishLoad outcome) := by
  cases outcome with
  | error failure =>
      exact
        { wellFormed with
          loading := by simp [EventBrowser.finishLoad]
          rendered := by simp [EventBrowser.finishLoad]
          empty := by simp [EventBrowser.finishLoad] }
  | ok page =>
      unfold EventBrowser.finishLoad
      dsimp only
      by_cases success : page.isSuccess = true
      · rw [if_pos success]
        exact
          { wellFormed with
            ascending := List.pairwise_lt_range
            inRange := fun _ => List.mem_range.mp
            selected := .inl rfl
            totalPages := page.one_le_pageCount
            loading := by simp [phaseOf_ne_loading]
            rendered := phaseOf_eq_rendered_iff.mp
            empty := phaseOf_eq_empty_iff.mp }
      · rw [if_neg success]
        exact
          { wellFormed with
            ascending := List.Pairwise.nil
            inRange := fun _ => List.not_mem_nil.elim
            selected := .inl rfl
            loading := by simp
            rendered := by simp
            empty := fun _ => rfl }

/-! ### Filtering -/

theorem applyFilter : WellFormed browser.applyFilter := by
  refine { wellFormed with
    ascending := ascending_admitted browser.filter browser.loaded
    inRange := fun _ => lt_length_of_mem_admitted
    selected := clampRow_cases _ browser.selected
    loading := ?loading
    rendered := ?rendered
    empty := ?empty }
  -- The phase stays while a fetch is outstanding, and else it is that of the new rows.
  case loading =>
    by_cases waits : browser.loading = true
    · rw [phase_applyFilter_of_waits waits]
      exact wellFormed.loading
    · rw [phase_applyFilter_of_free waits]
      simp [EventBrowser.applyFilter, waits, phaseOf_ne_loading]
  case rendered =>
    by_cases waits : browser.loading = true
    · simp [phase_applyFilter_of_waits waits, wellFormed.loading.mp waits]
    · rw [phase_applyFilter_of_free waits]
      exact phaseOf_eq_rendered_iff.mp
  case empty =>
    by_cases waits : browser.loading = true
    · simp [phase_applyFilter_of_waits waits, wellFormed.loading.mp waits]
    · rw [phase_applyFilter_of_free waits]
      exact phaseOf_eq_empty_iff.mp

theorem withFilter (filter : EventFilter) : WellFormed { browser with filter := filter } :=
  { wellFormed with }

theorem setSearch (text : String) (now : Int) : WellFormed (browser.setSearch text now) :=
  { wellFormed with }

theorem popSearch (now : Int) : WellFormed (browser.popSearch now) := by
  unfold EventBrowser.popSearch
  split
  · exact wellFormed
  · exact wellFormed.setSearch _ now

theorem tick (now : Int) : WellFormed (browser.tick now).2 := by
  have looked : WellFormed { browser with searchDelay := (browser.searchDelay.fire now).2 } :=
    { wellFormed with }
  unfold EventBrowser.tick
  dsimp only
  split
  · exact looked.applyFilter
  · exact looked

/-! ### Selection and detail -/

theorem select (row : Nat) : WellFormed (browser.select row) :=
  { wellFormed with selected := clampRow_cases browser.shown row }

theorem openDetail (row : Nat) : WellFormed (browser.openDetail row).2 := by
  unfold EventBrowser.openDetail
  split
  case h_1 => exact wellFormed
  case h_2 event atRow =>
    obtain ⟨position, isShown, isEvent⟩ := Option.bind_eq_some_iff.mp atRow
    obtain ⟨isRow, _⟩ := List.getElem?_eq_some_iff.mp isShown
    refine { wellFormed with selected := .inr isRow, detail := ?_ }
    intro detail isOpen
    obtain rfl := Option.some.inj isOpen
    exact lines_ne_nil event.record

theorem closeDetail : WellFormed browser.closeDetail :=
  { wellFormed with detail := by simp [EventBrowser.closeDetail] }

theorem scrollDetail (delta : Int) : WellFormed (browser.scrollDetail delta) := by
  refine { wellFormed with detail := ?_ }
  intro detail isOpen
  obtain ⟨earlier, wasOpen, rfl⟩ := Option.map_eq_some_iff.mp isOpen
  exact wellFormed.detail earlier wasOpen

/-! ### Runs -/

theorem operate (operation : Operation) : WellFormed (browser.operate operation) := by
  cases operation with
  | load => exact wellFormed.loadPage wellFormed.currentPage
  | previousPage => exact wellFormed.previousPage
  | nextPage => exact wellFormed.nextPage
  | finish outcome => exact wellFormed.finishLoad outcome
  | setSearch text now => exact wellFormed.setSearch text now
  | pushSearch c now => exact wellFormed.setSearch _ now
  | popSearch now => exact wellFormed.popSearch now
  | tick now => exact wellFormed.tick now
  | setSeverity severity => exact (wellFormed.withFilter _).applyFilter
  | setEventType eventType => exact (wellFormed.withFilter _).applyFilter
  | cycleSeverity => exact (wellFormed.withFilter _).applyFilter
  | cycleEventType => exact (wellFormed.withFilter _).applyFilter
  | clearFilter => exact (wellFormed.withFilter _).applyFilter
  | applyFilter => exact wellFormed.applyFilter
  | select row => exact wellFormed.select row
  | selectNext => exact wellFormed.select _
  | selectPrevious => exact wellFormed.select _
  | selectLast => exact wellFormed.select _
  | openDetail row => exact wellFormed.openDetail row
  | openSelected => exact wellFormed.openDetail browser.selected
  | closeDetail => exact wellFormed.closeDetail
  | scrollDetail delta => exact wellFormed.scrollDetail delta

theorem run (operations : List Operation) : WellFormed (browser.run operations) := by
  induction operations generalizing browser with
  | nil => exact wellFormed
  | cons operation rest inductionHypothesis =>
      exact inductionHypothesis (wellFormed.operate operation)

/-! ### The table -/

/-- Every position shown is one of the page, so none is dropped. -/
theorem map_some_shownEvents :
    browser.shownEvents.map some = browser.shown.map fun position => browser.loaded[position]? := by
  rw [shownEvents, List.map_filterMap_some_eq_filter_map_isSome, List.filter_eq_self]
  intro found isFound
  obtain ⟨position, isShown, rfl⟩ := List.mem_map.mp isFound
  rw [List.getElem?_eq_getElem (wellFormed.inRange position isShown)]
  rfl

theorem length_shownEvents : browser.shownEvents.length = browser.shown.length := by
  have lengths := congrArg List.length wellFormed.map_some_shownEvents
  simpa using lengths

theorem getElem?_shownEvents (row : Nat) : browser.shownEvents[row]? = browser.eventAt? row := by
  have atRow := congrArg (fun found => found[row]?) wellFormed.map_some_shownEvents
  simp only [List.getElem?_map] at atRow
  unfold eventAt?
  cases isShown : browser.shown[row]? with
  | none =>
      rw [isShown, Option.map_none, Option.map_eq_none_iff] at atRow
      exact atRow
  | some position =>
      rw [isShown, Option.map_some] at atRow
      obtain ⟨event, isEvent, sameEvent⟩ := Option.map_eq_some_iff.mp atRow
      rw [isEvent]
      exact sameEvent

private theorem content_of_rendered (rendered : browser.phase = .rendered) :
    browser.content = .rows (browser.shownEvents.map Row.ofEvent) := by
  have someRow : browser.shown.isEmpty = false := by
    simpa using wellFormed.rendered rendered
  simp [content, rendered, someRow]

end WellFormed

/-- One row for each event shown, in order, and at least one. -/
structure RowsOf (browser : EventBrowser) (rows : List Row) : Prop where
  all : rows = browser.shownEvents.map Row.ofEvent
  count : rows.length = browser.shown.length
  inOrder : ∀ row, rows[row]? = (browser.eventAt? row).map Row.ofEvent
  some : rows ≠ []

theorem WellFormed.rowsOf_of_content {browser : EventBrowser} (wellFormed : WellFormed browser)
    {rows : List Row} (shows : browser.content = .rows rows) : RowsOf browser rows := by
  obtain ⟨rendered, someRow⟩ := Exchange.content_eq_rows shows
  rw [wellFormed.content_of_rendered rendered] at shows
  obtain rfl := TableContent.rows.inj shows
  have count : (browser.shownEvents.map Row.ofEvent).length = browser.shown.length := by
    rw [List.length_map, wellFormed.length_shownEvents]
  refine ⟨rfl, count, ?_, ?_⟩
  · intro row
    rw [List.getElem?_map, wellFormed.getElem?_shownEvents]
  · intro noRows
    rw [noRows, List.length_nil] at count
    exact someRow (List.eq_nil_of_length_eq_zero count.symm)

/-- A well-formed browser whose table shows rows exactly when it is rendered, and
then one row for each event shown. -/
structure Consistent (browser : EventBrowser) : Prop where
  state : WellFormed browser
  rendered : browser.phase = .rendered ↔ ∃ rows, browser.content = .rows rows
  rows : ∀ rows, browser.content = .rows rows → RowsOf browser rows

/-- Whatever is done to a browser of any page size, with whatever outcomes. -/
theorem consistent_run (size : UInt32) (operations : List Operation) :
    Consistent ((withPageSize size).run operations) := by
  have wellFormed := (wellFormed_withPageSize size).run operations
  refine ⟨wellFormed, ⟨?_, ?_⟩, ?_⟩
  · intro rendered
    exact ⟨_, wellFormed.content_of_rendered rendered⟩
  · rintro ⟨rows, shows⟩
    exact (Exchange.content_eq_rows shows).1
  · intro rows shows
    exact wellFormed.rowsOf_of_content shows

end EventBrowser

end EventConsole
