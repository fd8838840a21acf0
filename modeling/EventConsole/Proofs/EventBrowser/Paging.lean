import EventConsole.Proofs.Demo.Page
import EventConsole.Proofs.Demo.Query
import EventConsole.Proofs.EventBrowser.Indicator

/-!
Contract: one page of a store, loaded into the browser.

Owns: the answer to a fetch, what it means that a browser stands on a page, and
that loading and turning lead from page to page.

Does not own: walks over several pages (`EventBrowser.Walk`).
-/

namespace EventConsole.EventBrowser

open Demo

/-! ### Answers -/

/-- The value with which the server answers the request of a fetch. -/
def answerValue (store : Store) (fetch : Fetch) : Json.Value :=
  store.pageJson (PageRequest.ofParameters (queryParameters (splitTarget (fetchTarget fetch)).2))

/-- Everyone whom the server admits is answered the request of a fetch with a
value, at all times. -/
def Serves (server : Server) (fetch : Fetch) (value : Json.Value) : Prop :=
  ∀ request : Demo.Request, request.target = fetchTarget fetch → request.method = "GET" →
    server.admits request = true → ∀ elapsed now,
      server.handle request elapsed now = (Response.json value, server)

theorem serves_answerValue (server : Server) (fetch : Fetch) :
    Serves server fetch (answerValue server.store fetch) := by
  intro request target method admitted elapsed now
  have path : Endpoint.ofPath? (String.ofList "/api/events".toList) = some .events := rfl
  simp only [Server.handle, target, splitTarget_fetchTarget, path, admitted, method, true_or,
    if_true, Server.serve, answerValue]
  rfl

/-- What the client makes of the answer to a fetch. -/
def outcomeOf (store : Store) (fetch : Fetch) : Except Failure EventsPage :=
  Client.typed EventsPage.ofJson? (.ok (answerValue store fetch))

/-- The number of pages of some size that hold some number of events. -/
def pagesOf (count size : Nat) : Nat := max 1 ((count + (size - 1)) / size)

private theorem pagesOf_le (count size : Nat) : pagesOf count size ≤ max 1 count :=
  Nat.max_le.mpr ⟨Nat.le_max_left _ _, Nat.le_trans (pages_le_count _ _) (Nat.le_max_right _ _)⟩

section Answers

variable {store : Store} {events : List Event} {fetch : Fetch}
  (decoded : store.events.mapM Event.ofJson? = some events)
  (few : events.length < powerOf 2 32)
include decoded few

theorem outcomeOf_eq (page : 1 ≤ fetch.page) (limit : 1 ≤ fetch.limit)
    (honoured : fetch.limit.toNat ≤ PageRequest.maximumLimit) :
    outcomeOf store fetch =
      .ok (typedPage events ((events.length + (fetch.limit.toNat - 1)) / fetch.limit.toNat)
        ⟨fetch.page.toNat, fetch.limit.toNat⟩) := by
  have sameLength : store.events.length = events.length := length_of_mapM decoded
  let request : PageRequest := ⟨fetch.page.toNat, fetch.limit.toNat⟩
  have read : EventsPage.ofJson? (store.pageJson request) =
      some (typedPage events (store.pageCount request.limit) request) :=
    Store.ofJson?_pageJson decoded (sameLength ▸ few) fetch.page.toNat_lt fetch.limit.toNat_lt
  rw [outcomeOf, answerValue, ofParameters_fetchTarget page limit, Nat.min_eq_left honoured,
    Client.typed, read, Store.pageCount, sameLength]

end Answers

/-! ### Pages -/

/-- An asked fetch whose answer is a page of success, and the browser once it
has taken that page in. -/
def Loads (store : Store) (asked : Option Fetch × EventBrowser) (after : EventBrowser) : Prop :=
  ∃ fetch page, asked.1 = some fetch ∧ outcomeOf store fetch = .ok page ∧
    page.isSuccess = true ∧ after = asked.2.finishLoad (.ok page)

theorem Loads.unique {store : Store} {asked : Option Fetch × EventBrowser}
    {first second : EventBrowser} (one : Loads store asked first)
    (other : Loads store asked second) : first = second := by
  obtain ⟨fetch, page, isAsked, isAnswer, _, rfl⟩ := one
  obtain ⟨fetch', page', isAsked', isAnswer', _, rfl⟩ := other
  have sameFetch : fetch = fetch' := Option.some.inj (isAsked.symm.trans isAsked')
  subst sameFetch
  have samePage : page = page' := Except.ok.inj (isAnswer.symm.trans isAnswer')
  rw [samePage]

/-- A browser that shows a page of a list of events and waits for nothing. -/
structure OnPage (events : List Event) (size number : Nat) (browser : EventBrowser) : Prop where
  inRange : 1 ≤ number ∧ number ≤ pagesOf events.length size
  loaded : browser.loaded = slice events ⟨number, size⟩
  shown : browser.shown = List.range browser.loaded.length
  currentPage : browser.currentPage.toNat = number
  pageSize : browser.pageSize.toNat = size
  totalPages : browser.totalPages.toNat = pagesOf events.length size
  totalEvents : browser.totalEvents.toNat = events.length
  settled : browser.loading = false
  phase : browser.phase = phaseOf browser.shown

namespace OnPage

variable {events : List Event} {size number : Nat} {browser : EventBrowser}
  (here : OnPage events size number browser)
include here

theorem canGoOn_iff : browser.canGoOn = true ↔ number < pagesOf events.length size := by
  rw [← here.totalPages, ← here.currentPage, ← UInt32.lt_iff_toNat_lt, canGoOn, here.settled]
  simp

theorem canGoBack_iff : browser.canGoBack = true ↔ 1 < number := by
  rw [canGoBack, here.settled, ← here.currentPage]
  simp [UInt32.lt_iff_toNat_lt]

end OnPage

section Turning

variable {store : Store} {events : List Event} {size number : Nat} {browser : EventBrowser}
  (decoded : store.events.mapM Event.ofJson? = some events)
  (few : events.length < powerOf 2 32)
  (positive : 1 ≤ size) (honoured : size ≤ PageRequest.maximumLimit)
include decoded few positive honoured

theorem exists_loads_load (settled : browser.loading = false)
    (current : browser.currentPage.toNat = number) (sized : browser.pageSize.toNat = size)
    (inRange : 1 ≤ number ∧ number ≤ pagesOf events.length size) :
    ∃ after, Loads store browser.load after ∧ OnPage events size number after := by
  let page := typedPage events ((events.length + (size - 1)) / size) ⟨number, size⟩
  have asked : browser.load =
      (some ⟨browser.currentPage, browser.pageSize⟩,
        { browser with loading := true, phase := .loading }) := by
    rw [load_eq, settled]
    rfl
  have answered : outcomeOf store ⟨browser.currentPage, browser.pageSize⟩ = .ok page := by
    subst current sized
    exact outcomeOf_eq decoded few (UInt32.le_iff_toNat_le.mpr inRange.1)
      (UInt32.le_iff_toNat_le.mpr positive) honoured
  refine ⟨browser.load.2.finishLoad (.ok page), ⟨_, page, by rw [asked], answered, rfl, rfl⟩, ?_⟩
  have taken : page.isSuccess = true := rfl
  have pageWord : (events.length + (size - 1)) / size < powerOf 2 32 :=
    Nat.lt_of_le_of_lt (pages_le_count _ _) few
  rw [asked]
  simp only [finishLoad, taken, if_true]
  exact
    { inRange := inRange
      loaded := rfl
      shown := rfl
      currentPage := current
      pageSize := sized
      totalPages := toNat_pageCount_typedPage pageWord
      totalEvents := toNat_totalEvents_typedPage few
      settled := rfl
      phase := rfl }

theorem exists_loads_nextPage (here : OnPage events size number browser)
    (further : number < pagesOf events.length size) :
    ∃ after, Loads store browser.nextPage after ∧ OnPage events size (number + 1) after := by
  have mayGo : browser.canGoOn = true := here.canGoOn_iff.mpr further
  have fits : number + 1 < powerOf 2 32 := by
    have bound := pagesOf_le events.length size
    have two : 1 < powerOf 2 32 := by decide
    omega
  have moved : (browser.currentPage + 1).toNat = number + 1 := by
    rw [UInt32.toNat_add, here.currentPage]
    exact Nat.mod_eq_of_lt fits
  rw [nextPage, if_pos mayGo]
  exact exists_loads_load decoded few positive honoured here.settled moved here.pageSize
    ⟨by omega, further⟩

theorem exists_loads_previousPage (here : OnPage events size (number + 1) browser)
    (back : 1 ≤ number) :
    ∃ after, Loads store browser.previousPage after ∧ OnPage events size number after := by
  have mayGo : browser.canGoBack = true := here.canGoBack_iff.mpr (by omega)
  have above : 1 ≤ browser.currentPage := by
    rw [UInt32.le_iff_toNat_le, here.currentPage]
    exact Nat.le_add_left 1 number
  have moved : (browser.currentPage - 1).toNat = number := by
    rw [UInt32.toNat_sub_of_le _ _ above, here.currentPage]
    exact Nat.add_sub_cancel number 1
  rw [previousPage, if_pos mayGo]
  exact exists_loads_load decoded few positive honoured here.settled moved here.pageSize
    ⟨back, Nat.le_trans (Nat.le_succ number) here.inRange.2⟩

end Turning

/-! ### Labels -/

/-- The label of a browser names the places in a list of events, counted from
one, of the rows that it shows. -/
structure NamesPlaces (events : List Event) (browser : EventBrowser) : Prop where
  content : browser.content = .rows (browser.shownEvents.map Row.ofEvent)
  ordered : 1 ≤ browser.pagination.start.toNat ∧
    browser.pagination.start.toNat ≤ browser.pagination.stop.toNat ∧
    browser.pagination.stop.toNat ≤ events.length
  places : browser.shownEvents =
    (events.drop (browser.pagination.start.toNat - 1)).take
      (browser.pagination.stop.toNat - (browser.pagination.start.toNat - 1))
  total : browser.pagination.total.toNat = events.length
  label : browser.pagination.label =
    "Showing " ++ toString browser.pagination.start.toNat ++ "-" ++
      toString browser.pagination.stop.toNat ++ " of " ++ toString events.length

private theorem lt_count_of_inRange {count size number : Nat} (some : 0 < count)
    (inRange : 1 ≤ number ∧ number ≤ pagesOf count size) (positive : 1 ≤ size) :
    (number - 1) * size < count := by
  have upper : number ≤ (count + (size - 1)) / size ∨ number = 1 := by
    have := inRange.2
    simp only [pagesOf] at this
    omega
  rcases upper with upper | first
  · have product : number * size ≤ count + (size - 1) := (Nat.le_div_iff_mul_le positive).mp upper
    rw [Nat.sub_mul, Nat.one_mul]
    omega
  · simpa [first] using some

namespace OnPage

variable {events : List Event} {size number : Nat} {browser : EventBrowser}
  (here : OnPage events size number browser)
include here

theorem shownEvents_eq : browser.shownEvents = browser.loaded :=
  (showsAll_of_range here.shown).events

theorem toNat_start : browser.pagination.start.toNat = (number - 1) * size + 1 := by
  have counted : 1 ≤ browser.currentPage := by
    rw [UInt32.le_iff_toNat_le, here.currentPage]
    exact here.inRange.1
  rw [EventBrowser.toNat_start counted, here.currentPage, here.pageSize]

theorem toNat_stop : browser.pagination.stop.toNat = min (number * size) events.length := by
  rw [EventBrowser.toNat_stop, here.currentPage, here.pageSize, here.totalEvents]

/-- On every page of events the label names the places of the rows shown. -/
theorem namesPlaces (some : 0 < events.length) (positive : 1 ≤ size) :
    NamesPlaces events browser := by
  have start := here.toNat_start
  have stop := here.toNat_stop
  have before : (number - 1) * size < events.length :=
    lt_count_of_inRange some here.inRange positive
  have whole : (number - 1) * size + size = number * size := by
    rw [← Nat.succ_mul, Nat.succ_eq_add_one, Nat.sub_add_cancel here.inRange.1]
  have rows : browser.loaded = (events.drop ((number - 1) * size)).take size := here.loaded
  have upToStop : browser.loaded =
      (events.drop ((number - 1) * size)).take
        (browser.pagination.stop.toNat - (number - 1) * size) := by
    rw [rows, stop]
    by_cases full : number * size ≤ events.length
    · rw [Nat.min_eq_left full, show number * size - (number - 1) * size = size by omega]
    · rw [Nat.min_eq_right (Nat.le_of_not_le full), List.take_of_length_le, List.take_of_length_le]
      · rw [List.length_drop]
      · rw [List.length_drop]
        omega
  refine ⟨?content, ?ordered, ?places, here.totalEvents, ?label⟩
  case content =>
    have nonempty : browser.shown.isEmpty = false := by
      rw [here.shown, List.isEmpty_eq_false_iff, ne_eq, List.range_eq_nil, rows,
        List.length_take, List.length_drop]
      omega
    rw [content, here.phase, phaseOf, nonempty]
    simp
  case ordered =>
    rw [start, stop]
    omega
  case places => rw [here.shownEvents_eq, start, Nat.add_sub_cancel, upToStop]
  case label =>
    have total : browser.pagination.total.toNat = events.length := here.totalEvents
    have counted : browser.pagination.total ≠ 0 := fun zero => by
      rw [zero] at total
      exact Nat.ne_of_lt some total
    rw [Pagination.label, if_neg counted, ← total]
    rfl

end OnPage

/-- What a browser shows of its page. -/
def view (browser : EventBrowser) : List Event × Pagination × TableContent :=
  (browser.shownEvents, browser.pagination, browser.content)

/-- A page is shown in the same way whenever it is shown. -/
theorem OnPage.view_eq {events : List Event} {size number : Nat} {first second : EventBrowser}
    (one : OnPage events size number first) (other : OnPage events size number second) :
    first.view = second.view := by
  have currentPage : first.currentPage = second.currentPage :=
    UInt32.toNat_inj.mp (one.currentPage.trans other.currentPage.symm)
  have pageSize : first.pageSize = second.pageSize :=
    UInt32.toNat_inj.mp (one.pageSize.trans other.pageSize.symm)
  have totalPages : first.totalPages = second.totalPages :=
    UInt32.toNat_inj.mp (one.totalPages.trans other.totalPages.symm)
  have totalEvents : first.totalEvents = second.totalEvents :=
    UInt64.toNat_inj.mp (one.totalEvents.trans other.totalEvents.symm)
  have rows : first.shownEvents = second.shownEvents := by
    rw [one.shownEvents_eq, other.shownEvents_eq, one.loaded, other.loaded]
  have shown : first.shown = second.shown := by
    rw [one.shown, other.shown, one.loaded, other.loaded]
  simp only [view, pagination, content, canGoBack, canGoOn, one.settled, other.settled,
    one.phase, other.phase, currentPage, pageSize, totalPages, totalEvents, rows, shown]

end EventConsole.EventBrowser
