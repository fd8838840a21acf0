import EventConsole.Proofs.EventBrowser.Operation
import EventConsole.Proofs.SortedMap

/-!
Contract: what the browser shows comes from the pages that it took in.

Owns: that all operations but an outcome leave the data of the page alone, and
that a page replaces them by its own.
-/

namespace EventConsole

/-- A detail is the record of an event. -/
def EventBrowser.EventDetail.IsOf (detail : EventDetail) (event : Event) : Prop :=
  detail.title = EventBrowser.detailTitle event ∧ detail.lines = Highlight.lines event.record

namespace EventBrowser

/-! ### Data -/

/-- One browser has the data of another; its detail is the same record, or one
of an event of the page. -/
structure Keeps (before after : EventBrowser) : Prop where
  loaded : after.loaded = before.loaded
  totalEvents : after.totalEvents = before.totalEvents
  totalPages : after.totalPages = before.totalPages
  knownTypes : after.knownTypes = before.knownTypes
  detail : ∀ detail, after.detail = some detail →
    (∃ earlier, before.detail = some earlier ∧
      detail.title = earlier.title ∧ detail.lines = earlier.lines) ∨
    ∃ event ∈ before.loaded, EventDetail.IsOf detail event

namespace Keeps

theorem of_sameDetail {before after : EventBrowser} (loaded : after.loaded = before.loaded)
    (totalEvents : after.totalEvents = before.totalEvents)
    (totalPages : after.totalPages = before.totalPages)
    (knownTypes : after.knownTypes = before.knownTypes)
    (detail : after.detail = before.detail) : Keeps before after :=
  ⟨loaded, totalEvents, totalPages, knownTypes,
    fun opened isOpen => .inl ⟨opened, detail ▸ isOpen, rfl, rfl⟩⟩

theorem refl (browser : EventBrowser) : Keeps browser browser := of_sameDetail rfl rfl rfl rfl rfl

theorem trans {first second third : EventBrowser} (one : Keeps first second)
    (other : Keeps second third) : Keeps first third where
  loaded := other.loaded.trans one.loaded
  totalEvents := other.totalEvents.trans one.totalEvents
  totalPages := other.totalPages.trans one.totalPages
  knownTypes := other.knownTypes.trans one.knownTypes
  detail := by
    intro detail isOpen
    rcases other.detail detail isOpen with ⟨earlier, wasOpen, title, lines⟩ | ⟨event, member, isOf⟩
    · rcases one.detail earlier wasOpen with
        ⟨first, firstOpen, title', lines'⟩ | ⟨event, member, isOf⟩
      · exact .inl ⟨first, firstOpen, title.trans title', lines.trans lines'⟩
      · exact .inr ⟨event, member, title.trans isOf.1, lines.trans isOf.2⟩
    · exact .inr ⟨event, one.loaded ▸ member, isOf⟩

end Keeps

variable (browser : EventBrowser)

theorem keeps_setSearch (text : String) (now : Int) : Keeps browser (browser.setSearch text now) :=
  .of_sameDetail rfl rfl rfl rfl rfl

private theorem keeps_popSearch (now : Int) : Keeps browser (browser.popSearch now) := by
  unfold popSearch
  split
  · exact .refl browser
  · exact keeps_setSearch browser _ now

private theorem keeps_tick (now : Int) : Keeps browser (browser.tick now).2 := by
  unfold tick
  split
  split <;> exact .of_sameDetail rfl rfl rfl rfl rfl

private theorem keeps_closeDetail : Keeps browser browser.closeDetail where
  loaded := rfl
  totalEvents := rfl
  totalPages := rfl
  knownTypes := rfl
  detail := fun _ isOpen => absurd isOpen (by simp [closeDetail])

private theorem keeps_scrollDetail (delta : Int) : Keeps browser (browser.scrollDetail delta) where
  loaded := rfl
  totalEvents := rfl
  totalPages := rfl
  knownTypes := rfl
  detail := by
    intro detail isOpen
    obtain ⟨earlier, wasOpen, rfl⟩ := Option.map_eq_some_iff.mp isOpen
    exact .inl ⟨earlier, wasOpen, rfl, rfl⟩

private theorem mem_of_eventAt? {row : Nat} {event : Event}
    (atRow : browser.eventAt? row = some event) : event ∈ browser.loaded := by
  obtain ⟨_, _, isEvent⟩ := Option.bind_eq_some_iff.mp atRow
  exact List.mem_of_getElem? isEvent

private theorem keeps_openDetail (row : Nat) : Keeps browser (browser.openDetail row).2 := by
  unfold openDetail
  split
  · exact .refl browser
  case h_2 event atRow =>
    refine ⟨rfl, rfl, rfl, rfl, fun detail isOpen => .inr ⟨event, ?_, ?_⟩⟩
    · exact mem_of_eventAt? browser atRow
    · cases isOpen
      exact ⟨rfl, rfl⟩

/-! ### Fetches -/

theorem keeps_load : Keeps browser browser.load.2 := by
  rw [load_eq]
  split
  · exact .refl browser
  · exact .of_sameDetail rfl rfl rfl rfl rfl

private theorem keeps_loadPage (number : UInt32) :
    Keeps browser (load { browser with currentPage := number }).2 :=
  have moved : Keeps browser { browser with currentPage := number } :=
    .of_sameDetail rfl rfl rfl rfl rfl
  moved.trans (keeps_load _)

private theorem keeps_previousPage : Keeps browser browser.previousPage.2 := by
  unfold previousPage
  split
  · exact keeps_loadPage browser _
  · exact .refl browser

private theorem keeps_nextPage : Keeps browser browser.nextPage.2 := by
  unfold nextPage
  split
  · exact keeps_loadPage browser _
  · exact .refl browser

/-! ### Operations -/

/-- Nothing but an outcome changes the data of the page. -/
theorem keeps_perform {operation : Operation} (noOutcome : ∀ outcome, operation ≠ .finish outcome) :
    Keeps browser (browser.perform operation).2 := by
  cases operation with
  | load => exact keeps_load browser
  | previousPage => exact keeps_previousPage browser
  | nextPage => exact keeps_nextPage browser
  | finish outcome => exact absurd rfl (noOutcome outcome)
  | setSearch text now => exact keeps_setSearch browser text now
  | pushSearch c now => exact keeps_setSearch browser _ now
  | popSearch now => exact keeps_popSearch browser now
  | tick now => exact keeps_tick browser now
  | openDetail row => exact keeps_openDetail browser row
  | openSelected => exact keeps_openDetail browser browser.selected
  | closeDetail => exact keeps_closeDetail browser
  | scrollDetail delta => exact keeps_scrollDetail browser delta
  | _ => exact .of_sameDetail rfl rfl rfl rfl rfl

/-! ### Pages -/

/-- All that a browser shows of events comes from some pages. -/
structure Shows (pages : EventsPage → Prop) (browser : EventBrowser) : Prop where
  loaded : browser.loaded = [] ∨ ∃ page, pages page ∧ browser.loaded = page.data.getD []
  totalEvents : browser.totalEvents = 0 ∨
    ∃ page, pages page ∧ browser.totalEvents = page.totalEvents
  totalPages : browser.totalPages = 1 ∨ ∃ page, pages page ∧ browser.totalPages = page.pageCount
  knownTypes : ∀ eventType, browser.knownTypes.get? eventType = some () →
    ∃ page, pages page ∧ ∃ event ∈ page.data.getD [], filled event.eventType = some eventType
  detail : ∀ detail, browser.detail = some detail →
    ∃ page, pages page ∧ ∃ event ∈ page.data.getD [], EventDetail.IsOf detail event

variable {browser} {pages : EventsPage → Prop}

theorem shows_new : Shows pages new where
  loaded := .inl rfl
  totalEvents := .inl rfl
  totalPages := .inl rfl
  knownTypes := fun _ known =>
    absurd known (by simp [new, withPageSize, SortedMap.get?, SortedMap.empty])
  detail := fun _ isOpen => absurd isOpen (by simp [new, withPageSize])

theorem Shows.mono {more : EventsPage → Prop} (wider : ∀ page, pages page → more page)
    (shows : Shows pages browser) : Shows more browser where
  loaded := shows.loaded.imp_right fun ⟨page, known, same⟩ => ⟨page, wider page known, same⟩
  totalEvents :=
    shows.totalEvents.imp_right fun ⟨page, known, same⟩ => ⟨page, wider page known, same⟩
  totalPages :=
    shows.totalPages.imp_right fun ⟨page, known, same⟩ => ⟨page, wider page known, same⟩
  knownTypes := fun eventType known =>
    let ⟨page, isPage, rest⟩ := shows.knownTypes eventType known
    ⟨page, wider page isPage, rest⟩
  detail := fun detail isOpen =>
    let ⟨page, isPage, rest⟩ := shows.detail detail isOpen
    ⟨page, wider page isPage, rest⟩

theorem Shows.of_keeps {after : EventBrowser} (shows : Shows pages browser)
    (keeps : Keeps browser after) : Shows pages after where
  loaded := keeps.loaded ▸ shows.loaded
  totalEvents := keeps.totalEvents ▸ shows.totalEvents
  totalPages := keeps.totalPages ▸ shows.totalPages
  knownTypes := keeps.knownTypes ▸ shows.knownTypes
  detail := by
    intro detail isOpen
    rcases keeps.detail detail isOpen with ⟨earlier, wasOpen, title, lines⟩ | ⟨event, member, isOf⟩
    · obtain ⟨page, isPage, event, member, isOf⟩ := shows.detail earlier wasOpen
      exact ⟨page, isPage, event, member, title.trans isOf.1, lines.trans isOf.2⟩
    · rcases shows.loaded with empty | ⟨page, isPage, same⟩
      · rw [empty] at member
        contradiction
      · exact ⟨page, isPage, event, same ▸ member, isOf⟩

/-- The known types are those of the events and those that were known before. -/
theorem get?_learnTypes_iff {known : SortedMap String Unit} {events : List Event}
    {eventType : String} :
    (learnTypes known events).get? eventType = some () ↔
      known.get? eventType = some () ∨
        ∃ event ∈ events, filled event.eventType = some eventType := by
  induction events generalizing known with
  | nil => simp [learnTypes]
  | cons event rest inductionHypothesis =>
      rw [List.exists_mem_cons_iff, ← or_assoc]
      cases named : filled event.eventType with
      | none =>
          rw [show learnTypes known (event :: rest) = learnTypes known rest by
            simp [learnTypes, named], inductionHypothesis]
          simp
      | some name =>
          rw [show learnTypes known (event :: rest) = learnTypes (known.insert name ()) rest by
            simp [learnTypes, named], inductionHypothesis]
          by_cases same : eventType = name
          · simp [same]
          · simp [known.get?_insert_of_ne () same, Ne.symm same]

theorem Shows.finishLoad {outcome : Except Failure EventsPage} (shows : Shows pages browser)
    (isPage : ∀ page, outcome = .ok page → pages page) :
    Shows pages (browser.finishLoad outcome) := by
  unfold EventBrowser.finishLoad
  split
  · exact shows.of_keeps (.of_sameDetail rfl rfl rfl rfl rfl)
  case h_2 page =>
    have known : pages page := isPage page rfl
    split
    · exact
        { loaded := .inr ⟨page, known, rfl⟩
          totalEvents := .inr ⟨page, known, rfl⟩
          totalPages := .inr ⟨page, known, rfl⟩
          knownTypes := by
            intro eventType learned
            rcases get?_learnTypes_iff.mp learned with before | ⟨event, member, isType⟩
            · exact shows.knownTypes eventType before
            · exact ⟨page, known, event, member, isType⟩
          detail := shows.detail }
    · exact
        { loaded := .inl rfl
          totalEvents := .inl rfl
          totalPages := shows.totalPages
          knownTypes := shows.knownTypes
          detail := shows.detail }

end EventBrowser

end EventConsole
