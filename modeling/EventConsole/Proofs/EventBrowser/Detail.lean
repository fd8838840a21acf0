import EventConsole.Proofs.EventBrowser.Filtering
import EventConsole.Proofs.Highlight
import EventConsole.Proofs.Json.Event

/-!
Contract: the detail of a row shows the record as the server sent it.

Owns: which events the rows come from once a page was taken in, and that the
detail of a row joins to the pretty text of the record it was read from.
-/

namespace EventConsole.EventBrowser

open Json

/-! ### Where rows come from -/

/-- A page is taken in, in place of the one before. -/
def Operation.TakesPage (operation : Operation) : Prop :=
  ∃ page : EventsPage, operation = .finish (.ok page) ∧ page.isSuccess = true

/-- The rows are rows of these events, unless an answer without events emptied the
table. -/
structure ShowsFrom (events : List Event) (browser : EventBrowser) : Prop where
  loaded : browser.loaded = events ∨ browser.loaded = []
  inRange : ∀ position ∈ browser.shown, position < browser.loaded.length

section ShowsFrom

variable {events : List Event} {browser : EventBrowser}

private theorem showsFrom_finishLoad {page : EventsPage} (success : page.isSuccess = true)
    (data : page.data = some events) (browser : EventBrowser) :
    ShowsFrom events (browser.finishLoad (.ok page)) := by
  rw [finishLoad, if_pos success, data]
  exact ⟨.inl rfl, fun _ => List.mem_range.mp⟩

theorem ShowsFrom.applyFilter (shows : ShowsFrom events browser) :
    ShowsFrom events browser.applyFilter := by
  refine ⟨shows.loaded, fun position isShown => ?_⟩
  rw [(showsAdmitted_applyFilter browser).positions] at isShown
  exact List.mem_range.mp (List.mem_filter.mp isShown).1

theorem ShowsFrom.effect {operation : Operation} {result : Option Fetch × EventBrowser}
    (effect : Effect browser operation result) (noPage : ¬ operation.TakesPage)
    (shows : ShowsFrom events browser) : ShowsFrom events result.2 := by
  cases effect with
  | looks | asks | fails | edits => exact ⟨shows.loaded, shows.inRange⟩
  | succeeds page success => exact absurd ⟨page, rfl, success⟩ noPage
  | empties => exact ⟨.inr rfl, fun _ => List.not_mem_nil.elim⟩
  | filters | fires => exact ShowsFrom.applyFilter ⟨shows.loaded, shows.inRange⟩

theorem showsFrom_run {page : EventsPage} (success : page.isSuccess = true)
    (data : page.data = some events) (start : EventBrowser) {operations : List Operation}
    (noPage : Without (fun _ operation => operation.TakesPage) (start.finishLoad (.ok page))
      operations) :
    ShowsFrom events ((start.finishLoad (.ok page)).run operations) :=
  noPage.keeps (fun _ operation other shows => shows.effect (effect_perform _ operation) other)
    (showsFrom_finishLoad success data start)

/-- The event of a row is the one at the same position of the page. -/
theorem ShowsFrom.event_at (shows : ShowsFrom events browser) {row : Nat}
    (isRow : row < browser.shown.length) :
    ∃ position event, browser.shown[row]? = some position ∧
      events[position]? = some event ∧ browser.eventAt? row = some event := by
  have isShown := List.getElem?_eq_getElem isRow
  have inRange := shows.inRange _ (List.getElem_mem isRow)
  have isEvent := List.getElem?_eq_getElem inRange
  have fromPage : browser.loaded = events := by
    refine shows.loaded.resolve_right fun emptied => ?_
    rw [emptied] at inRange
    exact absurd inRange (Nat.not_lt_zero _)
  refine ⟨_, browser.loaded[browser.shown[row]], isShown, ?_, ?_⟩
  · rw [← fromPage]
    exact isEvent
  · rw [eventAt?, isShown]
    exact isEvent

end ShowsFrom

/-! ### What the detail shows -/

/-- The lines of a detail are those of the pretty text of a record, and join to it. -/
structure ShowsRecord (detail : EventDetail) (record : Value) : Prop where
  lines : detail.lines.map Highlight.lineText = record.pretty.toList.splitOn '\n'
  text : ['\n'].intercalate (detail.lines.map Highlight.lineText) = record.pretty.toList

private theorem showsRecord_lines (title : String) (record : Value) (scroll : UInt16) :
    ShowsRecord ⟨title, Highlight.lines record, scroll⟩ record where
  lines := Highlight.map_lineText_lines record
  text := by rw [Highlight.map_lineText_lines, List.intercalate_splitOn]

/-- A row opens, and its detail shows the record. -/
structure OpensRecord (browser : EventBrowser) (row : Nat) (record : Value) : Prop where
  opens : (browser.openDetail row).1 = true
  shows : ∃ detail, (browser.openDetail row).2.detail = some detail ∧ ShowsRecord detail record

private theorem opensRecord_of_eventAt? {browser : EventBrowser} {row : Nat} {event : Event}
    (isEvent : browser.eventAt? row = some event) : OpensRecord browser row event.record := by
  refine ⟨by rw [openDetail, isEvent], _, by rw [openDetail, isEvent], ?_⟩
  exact showsRecord_lines (detailTitle event) event.record 0

/-- Once a page was read and taken in, and whatever is done until the next one,
every row opens and shows the record at its position among those of the page. -/
theorem opensRecord_run (start : EventBrowser) {value : Value} {page : EventsPage}
    (isRead : EventsPage.ofJson? value = some page) (success : page.isSuccess = true)
    {operations : List Operation}
    (noPage : Without (fun _ operation => operation.TakesPage) (start.finishLoad (.ok page))
      operations) :
    let browser := (start.finishLoad (.ok page)).run operations
    ∃ records, EventsPage.records? value = some records ∧
      ∀ row < browser.shown.length, ∃ position record,
        browser.shown[row]? = some position ∧ records[position]? = some record ∧
          OpensRecord browser row record := by
  intro browser
  have hasData : page.data.isSome = true := (Bool.and_eq_true_iff.mp success).2
  obtain ⟨events, data⟩ := Option.isSome_iff_exists.mp hasData
  obtain ⟨records, isRecords, decoded⟩ := EventsPage.mapM_records isRead data
  refine ⟨records, isRecords, fun row isRow => ?_⟩
  obtain ⟨position, event, isShown, isEvent, atRow⟩ :=
    (showsFrom_run success data start noPage).event_at isRow
  obtain ⟨record, isRecord, readFrom⟩ := exists_getElem?_of_mapM decoded isEvent
  have opens := opensRecord_of_eventAt? atRow
  rw [Event.record_of_ofJson? readFrom] at opens
  exact ⟨position, record, isShown, isRecord, opens⟩

/-- A record with a null field and an unknown member before a known one. -/
def nestedRecord : Value :=
  .object
    [ ("user", .null), ("tags", .array [.object [], .boolean true]), ("severity", .string "high") ]

/-- A page in array form, of which a filter admits the second record only. -/
def listedPage : Value :=
  .array [.string "success", .array [.object [("severity", .string "low")], nestedRecord]]

theorem opensRecord_listedPage :
    ∃ page, EventsPage.ofJson? listedPage = some page ∧
      OpensRecord ((new.finishLoad (.ok page)).run [.setSeverity "high", .load]) 0
        nestedRecord := by
  have noPage (start : EventBrowser) : Without (fun _ operation => operation.TakesPage) start
      [.setSeverity "high", .load] := by
    simp [Without, Operation.TakesPage]
  refine ⟨_, rfl, ?_⟩
  obtain ⟨records, isRecords, opens⟩ := opensRecord_run new
    (rfl : EventsPage.ofJson? listedPage = some _) rfl (noPage _)
  obtain rfl := Option.some.inj isRecords
  obtain ⟨position, record, isShown, isRecord, opens⟩ := opens 0 (by decide)
  obtain rfl := Option.some.inj isShown
  obtain rfl := Option.some.inj isRecord
  exact opens

end EventConsole.EventBrowser
