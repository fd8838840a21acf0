import EventConsole.Proofs.EventBrowser.WellFormed

/-!
Contract: the numbers by which a browser tells where it is.

A browser keeps its own page, and takes the number of pages and that of events
as they are answered. So it names a page and places that are there for as long as
the answers fit the page at which they are taken; nothing in it makes them fit.

Owns: the places of a page as natural numbers, what holds of the numbers whatever
is answered, and exactly which answers leave them well formed.

Does not own: answers of one unchanging store, which always fit
(`EventBrowser.Paging`).
-/

namespace EventConsole.EventBrowser

/-! ### Places -/

/-- Places on pages do not outgrow a word of 64 bits. -/
theorem place_fits {number size : Nat} (numberWord : number < powerOf 2 32)
    (sizeWord : size < powerOf 2 32) : number * size + 1 < powerOf 2 64 := by
  have product : number * size ≤ (powerOf 2 32 - 1) * (powerOf 2 32 - 1) :=
    Nat.mul_le_mul (Nat.le_sub_one_of_lt numberWord) (Nat.le_sub_one_of_lt sizeWord)
  exact Nat.lt_of_le_of_lt (Nat.add_le_add_right product 1) (by decide)

section Places

variable {browser : EventBrowser}

theorem toNat_start (counted : 1 ≤ browser.currentPage) :
    browser.pagination.start.toNat =
      (browser.currentPage.toNat - 1) * browser.pageSize.toNat + 1 := by
  have above : 1 ≤ browser.currentPage.toUInt64 := by
    rw [UInt64.le_iff_toNat_le, UInt32.toNat_toUInt64]
    exact UInt32.le_iff_toNat_le.mp counted
  have fits : (browser.currentPage.toNat - 1) * browser.pageSize.toNat + 1 < powerOf 2 64 :=
    place_fits (Nat.lt_of_le_of_lt (Nat.sub_le _ 1) browser.currentPage.toNat_lt)
      browser.pageSize.toNat_lt
  simp only [pagination, UInt64.toNat_add, UInt64.toNat_mul, UInt64.toNat_sub_of_le _ _ above,
    UInt32.toNat_toUInt64]
  rw [show UInt64.toNat 1 = 1 from rfl, Nat.mod_eq_of_lt (Nat.lt_of_succ_lt fits),
    Nat.mod_eq_of_lt fits]

theorem toNat_stop (browser : EventBrowser) :
    browser.pagination.stop.toNat =
      min (browser.currentPage.toNat * browser.pageSize.toNat) browser.totalEvents.toNat := by
  have product : browser.currentPage.toNat * browser.pageSize.toNat < powerOf 2 64 :=
    Nat.lt_of_succ_lt (place_fits browser.currentPage.toNat_lt browser.pageSize.toNat_lt)
  have exact : (browser.currentPage.toUInt64 * browser.pageSize.toUInt64).toNat =
      browser.currentPage.toNat * browser.pageSize.toNat := by
    rw [UInt64.toNat_mul, UInt32.toNat_toUInt64, UInt32.toNat_toUInt64, Nat.mod_eq_of_lt product]
  rw [← exact]
  change (if _ ≤ _ then _ else _ : UInt64).toNat = _
  split
  case isTrue lower => exact (Nat.min_eq_left (UInt64.le_iff_toNat_le.mp lower)).symm
  case isFalse higher =>
    rw [UInt64.le_iff_toNat_le] at higher
    exact (Nat.min_eq_right (Nat.le_of_not_le higher)).symm

end Places

/-! ### Well-formed numbers -/

/-- The page is one of the pages; and if there are events, the places named are
places of events, in order. -/
structure WellIndicated (browser : EventBrowser) : Prop where
  page : 1 ≤ browser.currentPage ∧ browser.currentPage ≤ browser.totalPages
  places : 0 < browser.totalEvents → 1 ≤ browser.pagination.start ∧
    browser.pagination.start ≤ browser.pagination.stop ∧
    browser.pagination.stop ≤ browser.totalEvents

/-- What no answer can spoil. -/
structure Bounded (browser : EventBrowser) : Prop where
  page : 1 ≤ browser.currentPage
  pages : 1 ≤ browser.totalPages
  start : 1 ≤ browser.pagination.start
  stop : browser.pagination.stop ≤ browser.totalEvents

/-- A number of pages and one of events fit a page: it is one of the pages, and
events, if there are any, reach to the last of them. -/
structure NumbersFit (page pages size : UInt32) (events : UInt64) : Prop where
  inRange : page ≤ pages
  filled : 0 < events → (pages.toNat - 1) * size.toNat < events.toNat

/-- The numbers of a browser fit its page. -/
def IsFit (browser : EventBrowser) : Prop :=
  NumbersFit browser.currentPage browser.totalPages browser.pageSize browser.totalEvents

/-- The numbers of an answer fit the page of a browser. -/
def Fits (browser : EventBrowser) (page : EventsPage) : Prop :=
  NumbersFit browser.currentPage page.pageCount browser.pageSize page.totalEvents

section Numbers

variable {browser : EventBrowser} (wellFormed : WellFormed browser)
include wellFormed

private theorem bounded_of_wellFormed : Bounded browser where
  page := wellFormed.currentPage
  pages := wellFormed.totalPages
  start := by
    rw [UInt64.le_iff_toNat_le, toNat_start wellFormed.currentPage]
    exact Nat.le_add_left 1 _
  stop := by
    rw [UInt64.le_iff_toNat_le, toNat_stop]
    exact Nat.min_le_right _ _

/-- The places of a page are in order exactly when the pages before it are not all. -/
theorem start_le_stop_iff :
    browser.pagination.start ≤ browser.pagination.stop ↔
      (browser.currentPage.toNat - 1) * browser.pageSize.toNat < browser.totalEvents.toNat := by
  have page : 1 ≤ browser.currentPage.toNat := UInt32.le_iff_toNat_le.mp wellFormed.currentPage
  have size : 1 ≤ browser.pageSize.toNat := UInt32.le_iff_toNat_le.mp wellFormed.pageSize
  have whole : (browser.currentPage.toNat - 1) * browser.pageSize.toNat + browser.pageSize.toNat =
      browser.currentPage.toNat * browser.pageSize.toNat := by
    rw [← Nat.succ_mul, Nat.succ_eq_add_one, Nat.sub_add_cancel page]
  rw [UInt64.le_iff_toNat_le, toNat_start wellFormed.currentPage, toNat_stop]
  omega

private theorem wellIndicated_of_isFit (fit : IsFit browser) : WellIndicated browser where
  page := ⟨wellFormed.currentPage, fit.inRange⟩
  places := by
    intro some
    have bounded := bounded_of_wellFormed wellFormed
    refine ⟨bounded.start, (start_le_stop_iff wellFormed).mpr ?_, bounded.stop⟩
    have inRange := UInt32.le_iff_toNat_le.mp fit.inRange
    exact Nat.lt_of_le_of_lt (Nat.mul_le_mul_right _ (Nat.sub_le_sub_right inRange 1))
      (fit.filled some)

end Numbers

/-! ### Operations -/

/-- An operation takes in a page of success. -/
def Operation.takesPage : Operation → Bool
  | .finish (.ok page) => page.isSuccess
  | _ => false

def WithoutPage (operations : List Operation) : Prop :=
  ∀ operation ∈ operations, operation.takesPage = false

section Operations

variable {browser : EventBrowser}

theorem isFit_load {page : UInt32}
    (fit : NumbersFit page browser.totalPages browser.pageSize browser.totalEvents) :
    IsFit (load { browser with currentPage := page }).2 := by
  rw [load_eq]
  split <;> exact fit

theorem IsFit.previousPage (fit : IsFit browser) : IsFit browser.previousPage.2 := by
  unfold EventBrowser.previousPage
  split
  case isTrue mayGo =>
    rw [canGoBack, Bool.and_eq_true, decide_eq_true_iff] at mayGo
    refine isFit_load ⟨?_, fit.filled⟩
    have inRange := fit.inRange
    have lower : 1 ≤ browser.currentPage := UInt32.le_of_lt mayGo.1
    rw [UInt32.le_iff_toNat_le] at inRange ⊢
    rw [UInt32.toNat_sub_of_le _ _ lower]
    exact Nat.le_trans (Nat.sub_le _ _) inRange
  case isFalse => exact fit

theorem IsFit.nextPage (fit : IsFit browser) : IsFit browser.nextPage.2 := by
  unfold EventBrowser.nextPage
  split
  case isTrue mayGo =>
    rw [canGoOn, Bool.and_eq_true, decide_eq_true_iff] at mayGo
    refine isFit_load ⟨?_, fit.filled⟩
    rw [UInt32.le_iff_toNat_le, toNat_succ_of_lt mayGo.1]
    exact UInt32.lt_iff_toNat_lt.mp mayGo.1
  case isFalse => exact fit

private theorem IsFit.operate_of_isLocal {operation : Operation} (fit : IsFit browser)
    (isLocal : operation.isLocal = true) : IsFit (browser.operate operation) := by
  have effect := effect_perform browser operation
  unfold EventBrowser.operate
  generalize browser.perform operation = result at effect
  cases effect with
  | looks | edits | filters | fires => exact fit
  | asks page isFetch => cases operation <;> contradiction
  | fails | succeeds | empties => contradiction

theorem IsFit.finishLoad {outcome : Except Failure EventsPage} (fit : IsFit browser)
    (noPage : (Operation.finish outcome).takesPage = false) :
    IsFit (browser.finishLoad outcome) := by
  cases outcome with
  | error failure => exact fit
  | ok page =>
      have noSuccess : ¬ page.isSuccess = true := Bool.eq_false_iff.mp noPage
      unfold EventBrowser.finishLoad
      dsimp only
      rw [if_neg noSuccess]
      exact ⟨fit.inRange, fun some => absurd some (UInt64.lt_irrefl 0)⟩

/-- Only a page of success can spoil the numbers. -/
theorem IsFit.operate {operation : Operation} (fit : IsFit browser)
    (noPage : operation.takesPage = false) : IsFit (browser.operate operation) := by
  cases operation with
  | load => exact isFit_load fit
  | previousPage => exact fit.previousPage
  | nextPage => exact fit.nextPage
  | finish outcome => exact fit.finishLoad noPage
  | _ => exact fit.operate_of_isLocal rfl

theorem IsFit.run {operations : List Operation} (fit : IsFit browser)
    (withoutPage : WithoutPage operations) : IsFit (browser.run operations) := by
  induction operations generalizing browser with
  | nil => exact fit
  | cons operation rest inductionHypothesis =>
      obtain ⟨noPage, restWithout⟩ := List.forall_mem_cons.mp withoutPage
      exact inductionHypothesis (fit.operate noPage) restWithout

/-- A page of success brings its own numbers. -/
theorem isFit_finishLoad_iff {page : EventsPage} (success : page.isSuccess = true) :
    IsFit (browser.finishLoad (.ok page)) ↔ Fits browser page := by
  unfold finishLoad
  dsimp only
  rw [if_pos success]
  exact Iff.rfl

/-! ### The last page -/

/-- To go on to a page that cannot be fetched. -/
def failingTurn : List Operation := [.nextPage, .finish (.error .transport)]

private theorem run_failingTurn (settled : browser.loading = false)
    (below : browser.currentPage < browser.totalPages) :
    browser.run failingTurn =
      { browser with currentPage := browser.currentPage + 1, phase := .failed } := by
  have mayGo : browser.canGoOn = true := by simp [canGoOn, settled, below]
  show (browser.nextPage.2).finishLoad (.error .transport) = _
  rw [EventBrowser.nextPage, if_pos mayGo, load_eq, if_neg (by simp [settled]), finishLoad, settled]

/-- From every page the last one can be reached without taking in another. -/
theorem exists_run_lastPage (settled : browser.loading = false)
    (inRange : browser.currentPage ≤ browser.totalPages) :
    ∃ operations phase, WithoutPage operations ∧
      browser.run operations =
        { browser with currentPage := browser.totalPages, phase := phase } := by
  obtain ⟨further, isFurther⟩ := Nat.exists_eq_add_of_le (UInt32.le_iff_toNat_le.mp inRange)
  induction further generalizing browser with
  | zero =>
      have atLast : browser.totalPages = browser.currentPage := UInt32.toNat_inj.mp isFurther
      refine ⟨[], browser.phase, fun _ => List.not_mem_nil.elim, ?_⟩
      cases browser
      cases atLast
      rfl
  | succ further inductionHypothesis =>
      have below : browser.currentPage < browser.totalPages := by
        rw [UInt32.lt_iff_toNat_lt]
        omega
      have moved := toNat_succ_of_lt below
      have stillInRange : browser.currentPage + 1 ≤ browser.totalPages := by
        rw [UInt32.le_iff_toNat_le, moved]
        exact UInt32.lt_iff_toNat_lt.mp below
      have isCloser : browser.totalPages.toNat = (browser.currentPage + 1).toNat + further := by
        rw [moved]
        omega
      obtain ⟨operations, phase, withoutPage, atLast⟩ := @inductionHypothesis
        { browser with currentPage := browser.currentPage + 1, phase := .failed } settled
        stillInRange isCloser
      rw [← run_failingTurn settled below, ← run_append] at atLast
      refine ⟨failingTurn ++ operations, phase,
        List.forall_mem_append.mpr ⟨by decide, withoutPage⟩, ?_⟩
      rw [atLast, run_failingTurn settled below]

end Operations

/-! ### Runs -/

theorem isFit_withPageSize (size : UInt32) : IsFit (withPageSize size) :=
  ⟨UInt32.le_refl 1, fun some => absurd some (UInt64.lt_irrefl 0)⟩

private theorem isFit_of_wellIndicated {browser : EventBrowser} (wellFormed : WellFormed browser)
    (settled : browser.loading = false)
    (turns : ∀ operations, WithoutPage operations → WellIndicated (browser.run operations)) :
    IsFit browser := by
  have inRange : browser.currentPage ≤ browser.totalPages :=
    (turns [] fun _ => List.not_mem_nil.elim).page.2
  refine ⟨inRange, fun some => ?_⟩
  obtain ⟨operations, phase, withoutPage, atLast⟩ := exists_run_lastPage settled inRange
  have places := (turns operations withoutPage).places
  have ordered := start_le_stop_iff (wellFormed.run operations)
  rw [atLast] at places ordered
  exact ordered.mp (places some).2.1

/-- How the indicator stands after a run, and how a page of success that comes next
leaves it until the one after that. -/
structure Indicates (start : EventBrowser) (operations : List Operation) : Prop where
  bounded : Bounded (start.run operations)
  beforePage : WithoutPage operations → WellIndicated (start.run operations)
  afterPage : ∀ page, page.isSuccess = true →
    ((∀ more, WithoutPage more →
        WellIndicated (start.run (operations ++ .finish (.ok page) :: more))) ↔
      Fits (start.run operations) page)

/-- Whatever is done, with whatever outcomes, the indicator keeps its bounds. It is
well formed before the first page of success; and a page of success keeps it well
formed until the next one, however the pages are turned, exactly if it fits. -/
theorem indicates_run (size : UInt32) (operations : List Operation) :
    Indicates (withPageSize size) operations where
  bounded := bounded_of_wellFormed ((wellFormed_withPageSize size).run operations)
  beforePage := fun withoutPage =>
    wellIndicated_of_isFit ((wellFormed_withPageSize size).run operations)
      ((isFit_withPageSize size).run withoutPage)
  afterPage := by
    intro page success
    have taken := ((wellFormed_withPageSize size).run operations).finishLoad (.ok page)
    have after (more : List Operation) :
        (withPageSize size).run (operations ++ .finish (.ok page) :: more) =
          (((withPageSize size).run operations).finishLoad (.ok page)).run more :=
      run_append _ operations (.finish (.ok page) :: more)
    simp only [after]
    rw [← isFit_finishLoad_iff success]
    constructor
    · exact isFit_of_wellIndicated taken (loading_finishLoad _ _)
    · intro fit more withoutPage
      exact wellIndicated_of_isFit (taken.run more) (fit.run withoutPage)

/-- A page of two events that reports more of them, and a number of pages. -/
def reporting (total : UInt64) (pages : UInt32) : EventsPage :=
  { twoEvents with total := some total, totalPages := some pages }

/-- On the second of two pages the answer is that there is but one. -/
def shrinkingTotals : List Operation :=
  [.load, .finish (.ok (reporting 51 2)), .nextPage, .finish (.ok (reporting 50 1))]

/-- Of three pages, the first holds all events. -/
def idlePages : List Operation := [.load, .finish (.ok (reporting 10 3)), .nextPage]

/-- A page beyond the last one, and a page of which all places lie behind the last
event. -/
theorem not_wellIndicated_shrinkingTotals :
    ((withPageSize 50).run shrinkingTotals).pagination = ⟨2, 1, 51, 50, 50, true, false⟩ ∧
      ¬ WellIndicated ((withPageSize 50).run shrinkingTotals) ∧
      ((withPageSize 50).run idlePages).pagination = ⟨2, 3, 51, 10, 10, false, false⟩ ∧
      ¬ WellIndicated ((withPageSize 50).run idlePages) := by
  refine ⟨by decide, fun shrunk => ?_, by decide, fun idle => ?_⟩
  · exact absurd shrunk.page.2 (by decide)
  · exact absurd (idle.places (by decide)).2.1 (by decide)

end EventConsole.EventBrowser
