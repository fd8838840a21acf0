import EventConsole.EventBrowser.Table
import EventConsole.Proofs.EventBrowser.Filtering

/-!
Contract: which fetch the rows shown are an answer to.

The page named is that of the last fetch, while the rows are those of the last
fetch that did not fail: a failure keeps the rows of another page behind the
error, and the next application of the filter brings them back.

Owns: a browser with its fetches and their outcomes, each fetch answered once,
and over all runs where the rows come from.
-/

namespace EventConsole.EventBrowser

/-- A browser with the fetch that it waits for and the fetches that were
answered, in order. -/
structure Exchange where
  browser : EventBrowser
  asked : Option Fetch
  answered : List (Fetch × Except Failure EventsPage)

namespace Exchange

def start (browser : EventBrowser) : Exchange := ⟨browser, none, []⟩

/-- Takes an outcome as the answer to the fetch outstanding; without one there
is nothing to take. -/
def take (exchange : Exchange) (outcome : Except Failure EventsPage) : Exchange :=
  match exchange.asked with
  | none => exchange
  | some fetch =>
      { browser := exchange.browser.finishLoad outcome
        asked := none
        answered := exchange.answered ++ [(fetch, outcome)] }

/-- Does an operation and notes the fetch that it asks for. -/
def note (exchange : Exchange) (operation : Operation) : Exchange :=
  { exchange with
    browser := (exchange.browser.perform operation).2
    asked := (exchange.browser.perform operation).1.or exchange.asked }

def step (exchange : Exchange) : Operation → Exchange
  | .finish outcome => exchange.take outcome
  | operation => exchange.note operation

def run (exchange : Exchange) (operations : List Operation) : Exchange :=
  operations.foldl step exchange

/-! ### Where the rows come from -/

/-- The last fetch that did not fail, its page, and the failures since. -/
structure LastPage (answered : List (Fetch × Except Failure EventsPage)) (fetch : Fetch)
    (page : EventsPage) (failures : List (Fetch × Except Failure EventsPage)) : Prop where
  last : ∃ before, answered = before ++ (fetch, .ok page) :: failures
  failed : ∀ answer ∈ failures, ∃ failure, answer.2 = .error failure

theorem lastPage_concat (answered : List (Fetch × Except Failure EventsPage)) (fetch : Fetch)
    (page : EventsPage) : LastPage (answered ++ [(fetch, .ok page)]) fetch page [] :=
  ⟨⟨answered, rfl⟩, fun _ member => absurd member List.not_mem_nil⟩

theorem LastPage.fails {answered failures : List (Fetch × Except Failure EventsPage)}
    {fetch : Fetch} {page : EventsPage} (lastPage : LastPage answered fetch page failures)
    (other : Fetch) (failure : Failure) :
    LastPage (answered ++ [(other, .error failure)]) fetch page
      (failures ++ [(other, .error failure)]) := by
  obtain ⟨⟨before, rfl⟩, failed⟩ := lastPage
  refine ⟨⟨before, by simp⟩, fun answer member => ?_⟩
  rcases List.mem_append.mp member with earlier | last
  · exact failed answer earlier
  · exact ⟨failure, by rw [List.mem_singleton.mp last]⟩

/-- The fetch answered last: the last of the failures, or else the one before them. -/
theorem LastPage.getLast? {answered failures : List (Fetch × Except Failure EventsPage)}
    {fetch : Fetch} {page : EventsPage} (lastPage : LastPage answered fetch page failures) :
    ∃ answer, answered.getLast? = some answer ∧
      answer.1 = (failures.getLast?.map Prod.fst).getD fetch := by
  obtain ⟨⟨before, rfl⟩, _⟩ := lastPage
  rw [List.getLast?_append, List.getLast?_cons]
  cases failures.getLast? with
  | none => exact ⟨(fetch, .ok page), rfl, rfl⟩
  | some answer => exact ⟨answer, rfl, rfl⟩

/-- The events loaded are those of the last page of success. -/
def LoadedFrom (answered : List (Fetch × Except Failure EventsPage)) (events : List Event) : Prop :=
  ∃ fetch page failures, LastPage answered fetch page failures ∧ page.isSuccess = true ∧
    events = page.data.getD []

/-! ### The exchange and the browser -/

/-- What the browser says of its fetches agrees with the exchange. -/
structure Agrees (exchange : Exchange) : Prop where
  waits : exchange.browser.loading = exchange.asked.isSome
  asked : ∀ fetch, exchange.asked = some fetch →
    fetch.page = exchange.browser.currentPage ∧ exchange.browser.phase = .loading
  named : exchange.asked = none → ∀ answer, exchange.answered.getLast? = some answer →
    answer.1.page = exchange.browser.currentPage
  rows : exchange.browser.loaded = [] ∧ exchange.browser.shown = [] ∨
    LoadedFrom exchange.answered exchange.browser.loaded

section Steps

variable {exchange : Exchange}

/-- Operations that leave the page and its fetch alone. While a fetch is
outstanding the phase stays, and of an empty page no row is shown. -/
theorem Agrees.of_same (agrees : Agrees exchange) {after : EventBrowser}
    (loading : after.loading = exchange.browser.loading)
    (currentPage : after.currentPage = exchange.browser.currentPage)
    (loaded : after.loaded = exchange.browser.loaded)
    (phase : exchange.browser.loading = true → after.phase = exchange.browser.phase)
    (shown : exchange.browser.loaded = [] → exchange.browser.shown = [] → after.shown = []) :
    Agrees { exchange with browser := after } where
  waits := loading.trans agrees.waits
  asked := by
    intro fetch isAsked
    obtain ⟨samePage, isLoading⟩ := agrees.asked fetch isAsked
    have waits : exchange.browser.loading = true := by
      rw [agrees.waits]
      exact Option.isSome_of_eq_some isAsked
    exact ⟨samePage.trans currentPage.symm, (phase waits).trans isLoading⟩
  named := fun free answer isLast => (agrees.named free answer isLast).trans currentPage.symm
  rows := by
    rcases agrees.rows with ⟨noEvents, noRows⟩ | answers
    · exact .inl ⟨loaded.trans noEvents, shown noEvents noRows⟩
    · exact .inr (loaded ▸ answers)

private theorem shown_applyFilter_of_empty {browser : EventBrowser} (empty : browser.loaded = []) :
    browser.applyFilter.shown = [] := by
  rw [(showsAdmitted_applyFilter browser).positions]
  change (List.range browser.loaded.length).filter _ = []
  rw [empty]
  rfl

theorem Agrees.note (agrees : Agrees exchange) {operation : Operation}
    (noOutcome : ∀ outcome, operation ≠ .finish outcome) : Agrees (exchange.note operation) := by
  have effect := effect_perform exchange.browser operation
  unfold Exchange.note
  generalize exchange.browser.perform operation = result at effect
  cases effect with
  | looks | edits => exact agrees.of_same rfl rfl rfl (fun _ => rfl) (fun _ noRows => noRows)
  | asks page isFetch free =>
      have nothing : exchange.asked = none := by
        rw [← Option.not_isSome_iff_eq_none, ← agrees.waits, free]
        exact Bool.false_ne_true
      exact
        { waits := rfl
          asked := by
            rintro fetch ⟨⟩
            exact ⟨rfl, rfl⟩
          named := fun absurdly => absurd absurdly (Option.some_ne_none _)
          rows := agrees.rows }
  | fails failure => exact absurd rfl (noOutcome _)
  | succeeds page => exact absurd rfl (noOutcome _)
  | empties page => exact absurd rfl (noOutcome _)
  | filters filter =>
      exact agrees.of_same rfl rfl rfl (fun loading => if_pos loading)
        (fun noEvents _ => shown_applyFilter_of_empty noEvents)
  | fires now =>
      exact agrees.of_same rfl rfl rfl (fun loading => if_pos loading)
        (fun noEvents _ => shown_applyFilter_of_empty noEvents)

/-- After an outcome nothing is outstanding, and the fetch it answers is that of
the current page. -/
theorem Agrees.of_answer (agrees : Agrees exchange) {fetch : Fetch}
    (isAsked : exchange.asked = some fetch) (outcome : Except Failure EventsPage)
    {after : EventBrowser} (loading : after.loading = false)
    (currentPage : after.currentPage = exchange.browser.currentPage)
    (rows : after.loaded = [] ∧ after.shown = [] ∨
      LoadedFrom (exchange.answered ++ [(fetch, outcome)]) after.loaded) :
    Agrees ⟨after, none, exchange.answered ++ [(fetch, outcome)]⟩ where
  waits := loading
  asked := fun _ absurdly => absurd absurdly.symm (Option.some_ne_none _)
  named := by
    rintro - answer isLast
    rw [List.getLast?_concat, Option.some.injEq] at isLast
    rw [← isLast]
    exact (agrees.asked fetch isAsked).1.trans currentPage.symm
  rows := rows

theorem Agrees.take (agrees : Agrees exchange) (outcome : Except Failure EventsPage) :
    Agrees (exchange.take outcome) := by
  unfold Exchange.take
  cases isAsked : exchange.asked with
  | none => exact agrees
  | some fetch =>
      dsimp only
      cases outcome with
      | error failure =>
          refine agrees.of_answer isAsked _ rfl rfl ?_
          rcases agrees.rows with nothing | ⟨earlier, page, failures, lastPage, success, loaded⟩
          · exact .inl nothing
          · exact .inr ⟨earlier, page, _, lastPage.fails fetch failure, success, loaded⟩
      | ok page =>
          unfold finishLoad
          dsimp only
          split
          case isTrue success =>
            exact agrees.of_answer isAsked _ rfl rfl
              (.inr ⟨fetch, page, [], lastPage_concat _ _ _, success, rfl⟩)
          case isFalse => exact agrees.of_answer isAsked _ rfl rfl (.inl ⟨rfl, rfl⟩)

theorem Agrees.step (agrees : Agrees exchange) (operation : Operation) :
    Agrees (exchange.step operation) := by
  cases operation with
  | finish outcome => exact agrees.take outcome
  | _ => exact agrees.note fun _ => Operation.noConfusion

theorem Agrees.run (agrees : Agrees exchange) (operations : List Operation) :
    Agrees (exchange.run operations) := by
  induction operations generalizing exchange with
  | nil => exact agrees
  | cons operation rest inductionHypothesis => exact inductionHypothesis (agrees.step operation)

end Steps

private theorem agrees_start (size : UInt32) : Agrees (start (withPageSize size)) where
  waits := rfl
  asked := fun _ absurdly => absurd absurdly.symm (Option.some_ne_none _)
  named := fun _ _ absurdly => absurd absurdly.symm (Option.some_ne_none _)
  rows := .inl ⟨rfl, rfl⟩

/-! ### Rows -/

theorem content_eq_rows {browser : EventBrowser} {rows : List Row}
    (shows : browser.content = .rows rows) : browser.phase = .rendered ∧ browser.shown ≠ [] := by
  unfold content at shows
  split at shows
  case h_5 rendered =>
    split at shows
    case isTrue => contradiction
    case isFalse someRow => exact ⟨rendered, fun nothing => someRow (by rw [nothing]; rfl)⟩
  all_goals contradiction

/-- The rows are the page that answered a fetch; since then fetches only failed.
The page named is the one asked for last. -/
structure RowsAnswer (exchange : Exchange) (fetch : Fetch) (page : EventsPage)
    (failures : List (Fetch × Except Failure EventsPage)) : Prop where
  lastPage : LastPage exchange.answered fetch page failures
  success : page.isSuccess = true
  loaded : exchange.browser.loaded = page.data.getD []
  named : exchange.browser.pagination.page = ((failures.getLast?.map Prod.fst).getD fetch).page

/-- Whenever rows are shown they are the page of the last fetch that did not
fail. It is the page named if no fetch has failed since, and else the page named
is that of the last failure. -/
theorem rowsAnswer_run (size : UInt32) (operations : List Operation) {rows : List Row}
    (shows : ((start (withPageSize size)).run operations).browser.content = .rows rows) :
    ∃ fetch page failures,
      RowsAnswer ((start (withPageSize size)).run operations) fetch page failures := by
  have agrees := (agrees_start size).run operations
  generalize (start (withPageSize size)).run operations = exchange at shows agrees
  obtain ⟨rendered, someRow⟩ := content_eq_rows shows
  have nothingAsked : exchange.asked = none := by
    rw [Option.eq_none_iff_forall_ne_some]
    intro fetch isAsked
    rw [(agrees.asked fetch isAsked).2] at rendered
    contradiction
  rcases agrees.rows with ⟨-, noRows⟩ | ⟨fetch, page, failures, lastPage, success, loaded⟩
  · exact absurd noRows someRow
  obtain ⟨answer, isLast, answers⟩ := lastPage.getLast?
  refine ⟨fetch, page, failures, lastPage, success, loaded, ?_⟩
  rw [← answers]
  exact (agrees.named nothingAsked answer isLast).symm

/-- The first of two pages. -/
def firstOfTwo : EventsPage := { twoEvents with totalPages := some 2 }

/-- The second of two pages cannot be fetched, and then the filter is cleared:
the rows of the first page are shown under the number of the second. -/
def staleRows : List Operation :=
  [.load, .finish (.ok firstOfTwo), .nextPage, .finish (.error .transport), .clearFilter]

theorem rowsAnswer_staleRows :
    let exchange := (start (withPageSize 50)).run staleRows
    exchange.answered = [(⟨1, 50⟩, .ok firstOfTwo), (⟨2, 50⟩, .error .transport)] ∧
      exchange.asked = none ∧ exchange.browser.pagination.page = 2 ∧
      exchange.browser.content = .rows ((firstOfTwo.data.getD []).map Row.ofEvent) ∧
      ∃ fetch page failures, RowsAnswer exchange fetch page failures := by
  have shows : ((start (withPageSize 50)).run staleRows).browser.content =
      .rows ((firstOfTwo.data.getD []).map Row.ofEvent) := rfl
  exact ⟨rfl, rfl, rfl, shows, rowsAnswer_run 50 staleRows shows⟩

end Exchange

end EventConsole.EventBrowser
