import EventConsole.Proofs.Console.Effect

/-!
Contract: an open detail takes every key, and else a focused search box does.

The area of a detail is forgotten when the detail goes, so that without a detail
there is nothing to forget. What a captured key changes is then only what it was
meant for, whatever else it would do on the screen.

Owns: that no area outlives its detail, the frame of captured keys, and the text
that is typed into the search box.

Does not own: how far a key scrolls, and when an edited text is applied.
-/

namespace EventConsole

/-- Control and c, which ends the console. -/
def KeyPress.interrupts (press : KeyPress) : Bool := press.control && press.key == .char 'c'

/-- Keys that edit a text: they write a character or take back the last one. -/
def Key.isEdit : Key → Bool
  | .char _ | .backspace => true
  | _ => false

/-- A text after a key was typed. -/
def Key.edit (text : List Char) : Key → List Char
  | .char c => text ++ [c]
  | .backspace => text.dropLast
  | _ => text

/-- Keys that close an open detail. -/
def Key.closesDetail : Key → Bool
  | .escape | .char 'x' | .char 'q' => true
  | _ => false

/-- Keys that give up the focus of the search box. -/
def Key.leavesSearch : Key → Bool
  | .escape | .enter => true
  | _ => false

/-! ### Captured keys of a browser -/

namespace EventBrowser

variable (browser : EventBrowser)

/-- A key of the detail closes it or scrolls it. -/
theorem handleDetailKey_cases {detail : EventDetail} (isOpen : browser.detail = some detail)
    (key : Key) :
    key.closesDetail = true ∧ browser.handleDetailKey key = browser.closeDetail ∨
      key.closesDetail = false ∧ ∃ scroll, browser.handleDetailKey key =
        { browser with detail := some { detail with scroll := scroll } } := by
  have scrolls (delta : Int) : ∃ scroll, browser.scrollDetail delta =
      { browser with detail := some { detail with scroll := scroll } } :=
    ⟨(EventDetail.scrollBy detail delta).scroll, by rw [scrollDetail, isOpen]; rfl⟩
  unfold handleDetailKey
  split
  case h_1 | h_2 | h_3 => exact .inl ⟨rfl, rfl⟩
  case h_4 | h_5 | h_6 | h_7 => exact .inr ⟨rfl, scrolls _⟩
  case h_8 noEscape noX noQ _ _ _ _ =>
    refine .inr ⟨?_, detail.scroll, by rw [← isOpen]⟩
    unfold Key.closesDetail
    split <;> simp_all

/-- A browser with another search text, to be applied at a deadline or not yet
touched. -/
def withSearch (text : String) (deadline : Option Int) : EventBrowser :=
  { browser with
    filter := { browser.filter with search := text }
    searchDelay := { browser.searchDelay with deadline := deadline } }

private theorem popSearch_cases (now : Int) :
    ∃ text deadline, browser.popSearch now = browser.withSearch text deadline := by
  unfold popSearch
  split
  · exact ⟨browser.filter.search, browser.searchDelay.deadline, rfl⟩
  · exact ⟨_, _, rfl⟩

/-- A key of the search box edits the text or gives up the focus. -/
theorem handleSearchKey_cases (now : Int) (key : Key) :
    ∃ text deadline, browser.handleSearchKey now key =
      ⟨browser.withSearch text deadline, !key.leavesSearch⟩ := by
  cases key with
  | backspace =>
      obtain ⟨text, deadline, popped⟩ := browser.popSearch_cases now
      exact ⟨text, deadline, congrArg (EventsFocus.mk · true) popped⟩
  | _ => exact ⟨_, _, rfl⟩

private theorem toList_search_popSearch (now : Int) :
    (browser.popSearch now).filter.search.toList = browser.filter.search.toList.dropLast := by
  unfold popSearch
  split
  case h_1 nothing =>
    rw [List.reverse_eq_nil_iff.mp nothing]
    rfl
  case h_2 last kept some =>
    have text : browser.filter.search.toList = kept.reverse ++ [last] := by
      rw [← List.reverse_reverse browser.filter.search.toList, some, List.reverse_cons]
    rw [text, List.dropLast_concat]
    exact String.toList_ofList

/-- A key that edits keeps the focus and edits the search text. -/
theorem handleSearchKey_of_isEdit (now : Int) {key : Key} (isEdit : key.isEdit = true) :
    (browser.handleSearchKey now key).searching = true ∧
      (browser.handleSearchKey now key).browser.filter.search.toList =
        key.edit browser.filter.search.toList := by
  cases key with
  | char c => exact ⟨rfl, String.toList_push c⟩
  | backspace => exact ⟨rfl, browser.toList_search_popSearch now⟩
  | _ => contradiction

end EventBrowser

namespace Console

/-! ### Areas -/

/-- The area of a detail is remembered at most while the detail is open. -/
def AreaWithDetail (console : Console) : Prop :=
  console.events.detail = none → console.detailArea = none

theorem areaWithDetail_browse {console : Console} (follows : AreaWithDetail console)
    {change : Option EventBrowser.Fetch × EventBrowser}
    (same : change.2.detail = console.events.detail) :
    AreaWithDetail (console.browse change) := by
  unfold browse
  cases change.1 <;> exact fun closed => follows (same.symm.trans closed)

/-- What the events screen asks for comes after a look at its detail. -/
theorem areaWithDetail_runAction (console : Console) (action : EventsAction) :
    AreaWithDetail (console.runAction action) := by
  have looked : AreaWithDetail
      (if console.events.detail.isNone then { console with detailArea := none } else console) := by
    split
    case isTrue => exact fun _ => rfl
    case isFalse isOpen => exact fun closed => absurd (Option.isNone_iff_eq_none.mpr closed) isOpen
  unfold runAction
  cases action with
  | nothing => exact looked
  | reload => exact areaWithDetail_browse looked (EventBrowser.detail_load _)
  | previousPage => exact areaWithDetail_browse looked (EventBrowser.detail_previousPage _)
  | nextPage => exact areaWithDetail_browse looked (EventBrowser.detail_nextPage _)

section Input

variable {console : Console} (now : Moment)

private theorem areaWithDetail_handleKey (follows : AreaWithDetail console) (press : KeyPress) :
    AreaWithDetail (console.handleKey press now) := by
  unfold handleKey
  split
  · exact follows
  split
  · unfold loginKey
    dsimp only
    split <;> exact follows
  split
  · exact areaWithDetail_runAction _ _
  · unfold screenKey
    split
    -- Only the last case hands the key on to a screen.
    case h_6 =>
      split
      · unfold dashboardKey
        split <;> exact follows
      · exact areaWithDetail_runAction _ _
    all_goals exact follows

private theorem areaWithDetail_handleMouse (follows : AreaWithDetail console) (event : MouseEvent) :
    AreaWithDetail (console.handleMouse event) := by
  unfold handleMouse
  split
  · exact areaWithDetail_runAction _ _
  · exact follows

private theorem areaWithDetail_enterRoute (follows : AreaWithDetail console) (route : Route) :
    AreaWithDetail (console.enterRoute route now) := by
  unfold enterRoute
  split
  · exact follows
  cases route with
  | login => exact fun _ => rfl
  | dashboard =>
      dsimp only
      split <;> exact follows
  | events =>
      dsimp only
      split
      · exact follows
      · have requested : AreaWithDetail
            { console with route := .events, eventsRequested := true } := follows
        exact areaWithDetail_browse requested (EventBrowser.detail_load _)

private theorem areaWithDetail_followRoute (follows : AreaWithDetail console) :
    AreaWithDetail (console.followRoute now) := by
  rw [followRoute_eq]
  split
  · have taken : AreaWithDetail console.takeUp := follows
    exact areaWithDetail_enterRoute now taken _
  · exact follows

end Input

/-! ### Steps beside the user -/

/-- Steps that are neither input nor the way to another screen. -/
def Step.isBackground : Step → Bool
  | .send _ | .answer _ _ | .deliver _ | .tick | .draw _ _ => true
  | _ => false

/-- What takes the keys is the same as before, and so is the text of the search
box. -/
structure LeavesFocus (before after : Console) : Prop where
  route : after.route = before.route
  searching : after.searching = before.searching
  detail : after.events.detail = before.events.detail
  search : after.events.filter.search = before.events.filter.search
  area : AreaWithDetail before → AreaWithDetail after

theorem LeavesFocus.of_same {before after : Console} (route : after.route = before.route)
    (searching : after.searching = before.searching)
    (detail : after.events.detail = before.events.detail)
    (filter : after.events.filter = before.events.filter)
    (area : after.detailArea = before.detailArea) : LeavesFocus before after where
  route := route
  searching := searching
  detail := detail
  search := congrArg EventFilter.search filter
  area := fun follows closed => area.trans (follows (detail.symm.trans closed))

theorem leavesFocus_refl (console : Console) : LeavesFocus console console :=
  .of_same rfl rfl rfl rfl rfl

section Background

variable (console : Console) (now : Moment)

private theorem leavesFocus_send (index : Nat) : LeavesFocus console (console.send index).2 := by
  unfold send
  split
  · exact leavesFocus_refl console
  split
  · exact .of_same rfl rfl rfl rfl rfl
  split <;> exact .of_same rfl rfl rfl rfl rfl

private theorem leavesFocus_answer (index : Nat) (answer : Answer) :
    LeavesFocus console (console.answer index answer) := by
  unfold Console.answer
  split
  · exact leavesFocus_refl console
  split <;> exact .of_same rfl rfl rfl rfl rfl

private theorem leavesFocus_takeIn (result : TaskResult) :
    LeavesFocus console (console.takeIn result now) := by
  cases result with
  | login accepted => cases accepted <;> exact .of_same rfl rfl rfl rfl rfl
  | events outcome =>
      obtain ⟨detail, filter⟩ := console.events.focus_finishLoad outcome
      unfold takeIn
      dsimp only
      split <;> exact .of_same rfl rfl detail filter rfl
  | stats outcome =>
      unfold takeIn
      dsimp only
      split <;> exact .of_same rfl rfl rfl rfl rfl

private theorem leavesFocus_deliver (index : Nat) :
    LeavesFocus console (console.deliver index now) := by
  unfold deliver
  split
  · exact leavesFocus_refl console
  case h_2 message _ =>
    unfold apply
    split
    · have taken := leavesFocus_takeIn { console with inbox := console.inbox.eraseIdx index } now
        message.result
      exact ⟨taken.route, taken.searching, taken.detail, taken.search, taken.area⟩
    · exact .of_same rfl rfl rfl rfl rfl

private theorem leavesFocus_tick : LeavesFocus console (console.tick now) := by
  obtain ⟨detail, filter⟩ := console.events.focus_tick now.elapsed
  unfold tick
  dsimp only
  split <;> exact .of_same rfl rfl detail filter rfl

/-- A drawing remembers the area of the detail that it draws. -/
theorem leavesFocus_drawn (width height : Nat) :
    LeavesFocus console (console.drawn width height) := by
  obtain drawn | ⟨canvas, body, drawn⟩ | drawn := drawn_cases console width height
  · rw [drawn]
    exact leavesFocus_refl console
  · rw [drawn]
    refine ⟨rfl, rfl, rfl, rfl, fun _ closed => ?_⟩
    change console.events.detail = none at closed
    simp only [drawEvents, closed]
  · rw [drawn]
    exact .of_same rfl rfl rfl rfl rfl

theorem leavesFocus_step {step : Step} (background : step.isBackground = true) :
    LeavesFocus console (console.step now step) := by
  cases step with
  | send index => exact leavesFocus_send console index
  | answer index answer => exact leavesFocus_answer console index answer
  | deliver index => exact leavesFocus_deliver console now index
  | tick => exact leavesFocus_tick console now
  | draw width height => exact leavesFocus_drawn console width height
  | key | mouse | followRoute => contradiction

end Background

theorem areaWithDetail_step {console : Console} (now : Moment) (step : Step)
    (follows : AreaWithDetail console) : AreaWithDetail (console.step now step) := by
  cases step with
  | key press => exact areaWithDetail_handleKey now follows press
  | mouse event => exact areaWithDetail_handleMouse follows event
  | followRoute => exact areaWithDetail_followRoute now follows
  | send | answer | deliver | tick | draw => exact (leavesFocus_step console now rfl).area follows

theorem areaWithDetail_of_reachable {console : Console} (reachable : Reachable console) :
    AreaWithDetail console := by
  refine reachable.keeps (fun client session username opening => ?_)
    fun console now step => areaWithDetail_step now step
  exact areaWithDetail_enterRoute opening (fun _ => rfl) _

/-! ### Captured keys -/

/-- Of a console nothing changes but its open detail: it is scrolled, or it is
closed and its area forgotten. -/
inductive OnlyDetail (before : Console) (detail : EventDetail) : Console → Prop where
  | scrolled (scroll : UInt16) :
      OnlyDetail before detail
        { before with
          events := { before.events with detail := some { detail with scroll := scroll } } }
  | closed :
      OnlyDetail before detail
        { before with events := { before.events with detail := none }, detailArea := none }

/-- Of a console nothing changes but the search text, its deadline and the focus. -/
inductive OnlySearch (before : Console) : Console → Prop where
  | typed (text : String) (deadline : Option Int) (focused : Bool) :
      OnlySearch before
        { before with events := before.events.withSearch text deadline, searching := focused }

/-- The console does not end, and neither its session nor its work is touched; the
page, the selection and the filters but for the search text are the same. -/
structure Undisturbed (before after : Console) : Prop where
  quit : after.quit = before.quit
  route : after.route = before.route
  session : after.session = before.session
  tasks : after.tasks = before.tasks
  loading : after.events.loading = before.events.loading
  page : after.events.currentPage = before.events.currentPage
  selected : after.events.selected = before.events.selected
  severity : after.events.filter.severity = before.events.filter.severity
  eventType : after.events.filter.eventType = before.events.filter.eventType

theorem OnlyDetail.undisturbed {before after : Console} {detail : EventDetail}
    (only : OnlyDetail before detail after) : Undisturbed before after := by
  cases only <;> exact ⟨rfl, rfl, rfl, rfl, rfl, rfl, rfl, rfl, rfl⟩

theorem OnlySearch.undisturbed {before after : Console} (only : OnlySearch before after) :
    Undisturbed before after := by
  cases only
  exact ⟨rfl, rfl, rfl, rfl, rfl, rfl, rfl, rfl, rfl⟩

section Keys

variable {console : Console} (now : Moment)

theorem handleKey_of_capturesKeys {press : KeyPress} (passes : press.interrupts = false)
    (captures : console.capturesKeys = true) :
    console.handleKey press now = console.eventsKey press.key now := by
  have noInterrupt : ¬ (press.control = true ∧ press.key = .char 'c') := by
    simpa [KeyPress.interrupts] using passes
  have onEvents : console.route = .events := by
    rw [capturesKeys, Bool.and_eq_true, beq_iff_eq] at captures
    exact captures.1
  rw [handleKey, if_neg noInterrupt, if_neg (by rw [onEvents]; decide), if_pos captures]

private theorem onlyDetail_eventsKey {detail : EventDetail}
    (isOpen : console.events.detail = some detail) (key : Key) :
    OnlyDetail console detail (console.eventsKey key now) ∧
      ((console.eventsKey key now).events.detail = none ↔ key.closesDetail = true) := by
  have taken : console.events.handleKey console.searching key now.elapsed =
      (.nothing, ⟨console.events.handleDetailKey key, console.searching⟩) :=
    if_pos (by rw [isOpen]; rfl)
  rw [eventsKey, taken]
  rcases console.events.handleDetailKey_cases isOpen key with
    ⟨isClosing, closes⟩ | ⟨notClosing, scroll, scrolls⟩
  · rw [closes]
    exact ⟨.closed, fun _ => isClosing, fun _ => rfl⟩
  · rw [scrolls, notClosing]
    exact ⟨.scrolled scroll, nofun, nofun⟩

/-- Without a detail there is no area to be forgotten. -/
theorem eventsKey_of_searching (closed : console.events.detail = none)
    (searching : console.searching = true) (follows : AreaWithDetail console) (key : Key) :
    console.eventsKey key now =
      { console with
        events := (console.events.handleSearchKey now.elapsed key).browser
        searching := (console.events.handleSearchKey now.elapsed key).searching } := by
  have taken : console.events.handleKey console.searching key now.elapsed =
      (.nothing, console.events.handleSearchKey now.elapsed key) := by
    rw [EventBrowser.handleKey, closed, searching]
    rfl
  rw [eventsKey, taken]
  unfold runAction
  dsimp only
  -- What would be forgotten is what there is already.
  rw [← follows closed, ite_self]

end Keys

/-! ### Typing -/

/-- The search box has the keys. -/
structure InSearch (console : Console) : Prop where
  route : console.route = .events
  closed : console.events.detail = none
  searching : console.searching = true

theorem InSearch.capturesKeys {console : Console} (inSearch : InSearch console) :
    console.capturesKeys = true := by
  rw [Console.capturesKeys, inSearch.route, inSearch.searching, Bool.or_true]
  rfl

/-- Characters and backspaces, with anything beside them that is no input. -/
def Step.isTyping : Step → Bool
  | .key press => press.key.isEdit && !press.interrupts
  | step => step.isBackground

def Step.key? : Step → Option Key
  | .key press => some press.key
  | _ => none

/-- The keys of a run, in order. -/
def typedKeys (steps : List (Moment × Step)) : List Key :=
  steps.filterMap fun timed => timed.2.key?

def searchText (console : Console) : List Char := console.events.filter.search.toList

section Typing

variable {console : Console}

theorem LeavesFocus.inSearch {after : Console} (leaves : LeavesFocus console after)
    (inSearch : InSearch console) : InSearch after :=
  ⟨leaves.route.trans inSearch.route, leaves.detail.trans inSearch.closed,
    leaves.searching.trans inSearch.searching⟩

/-- A step of typing leaves the search box in place, and its key edits the text. -/
theorem typing_step (now : Moment) {step : Step} (isTyping : step.isTyping = true)
    (inSearch : InSearch console) (follows : AreaWithDetail console) :
    InSearch (console.step now step) ∧
      (console.step now step).searchText = step.key?.toList.foldl Key.edit console.searchText := by
  cases step with
  | key press =>
      rw [Step.isTyping, Bool.and_eq_true, Bool.not_eq_true'] at isTyping
      obtain ⟨isEdit, passes⟩ := isTyping
      have edits := console.events.handleSearchKey_of_isEdit now.elapsed isEdit
      obtain ⟨text, deadline, handled⟩ :=
        console.events.handleSearchKey_cases now.elapsed press.key
      have after := eventsKey_of_searching now inSearch.closed inSearch.searching follows press.key
      rw [handled] at edits after
      change InSearch (console.handleKey press now) ∧ (console.handleKey press now).searchText = _
      rw [handleKey_of_capturesKeys now passes inSearch.capturesKeys, after]
      exact ⟨⟨inSearch.route, inSearch.closed, edits.1⟩, edits.2⟩
  | send | answer | deliver | tick | draw =>
      exact ⟨(leavesFocus_step console now rfl).inSearch inSearch,
        congrArg String.toList (leavesFocus_step console now rfl).search⟩
  | mouse | followRoute => contradiction

theorem typedKeys_cons (now : Moment) (step : Step) (rest : List (Moment × Step)) :
    typedKeys ((now, step) :: rest) = step.key?.toList ++ typedKeys rest := by
  cases step <;> rfl

/-- While one types, the search text is the earlier one with all keys applied in order. -/
theorem searchText_run {steps : List (Moment × Step)}
    (typing : ∀ timed ∈ steps, timed.2.isTyping = true) (inSearch : InSearch console)
    (follows : AreaWithDetail console) :
    InSearch (console.run steps) ∧
      (console.run steps).searchText = (typedKeys steps).foldl Key.edit console.searchText := by
  induction steps generalizing console with
  | nil => exact ⟨inSearch, rfl⟩
  | cons timed rest inductionHypothesis =>
      obtain ⟨now, step⟩ := timed
      rw [List.forall_mem_cons] at typing
      obtain ⟨stillInSearch, text⟩ := typing_step now typing.1 inSearch follows
      have further := inductionHypothesis typing.2 stillInSearch
        (areaWithDetail_step now step follows)
      rw [typedKeys_cons, List.foldl_append, ← text]
      exact further

end Typing

/-! ### The whole -/

/-- Every key but the one that ends the console goes to the open detail, or else to
the focused search box, and to nothing else. -/
structure CapturesKeys (console : Console) : Prop where
  detail : ∀ detail, console.events.detail = some detail → ∀ press now,
    press.interrupts = false →
      OnlyDetail console detail (console.handleKey press now) ∧
        Undisturbed console (console.handleKey press now) ∧
        ((console.handleKey press now).events.detail = none ↔ press.key.closesDetail = true)
  search : console.events.detail = none → console.searching = true → ∀ press now,
    press.interrupts = false →
      OnlySearch console (console.handleKey press now) ∧
        Undisturbed console (console.handleKey press now) ∧
        (console.handleKey press now).searching = !press.key.leavesSearch
  text : console.events.detail = none → console.searching = true → ∀ steps,
    (∀ timed ∈ steps, timed.2.isTyping = true) →
      (console.run steps).searchText = (typedKeys steps).foldl Key.edit console.searchText

theorem capturesKeys_of_reachable {console : Console} (reachable : Reachable console)
    (onEvents : console.route = .events) : CapturesKeys console where
  detail := by
    intro detail isOpen press now passes
    have captures : console.capturesKeys = true := by
      rw [capturesKeys, onEvents, isOpen]
      rfl
    rw [handleKey_of_capturesKeys now passes captures]
    obtain ⟨only, closes⟩ := onlyDetail_eventsKey now isOpen press.key
    exact ⟨only, only.undisturbed, closes⟩
  search := by
    intro closed searching press now passes
    have inSearch : InSearch console := ⟨onEvents, closed, searching⟩
    have follows := areaWithDetail_of_reachable reachable
    obtain ⟨text, deadline, handled⟩ :=
      console.events.handleSearchKey_cases now.elapsed press.key
    rw [handleKey_of_capturesKeys now passes inSearch.capturesKeys,
      eventsKey_of_searching now closed searching follows, handled]
    have only : OnlySearch console _ := .typed text deadline (!press.key.leavesSearch)
    exact ⟨only, only.undisturbed, rfl⟩
  text := fun closed searching _ typing =>
    (searchText_run typing ⟨onEvents, closed, searching⟩
      (areaWithDetail_of_reachable reachable)).2

/-- A console that opens on the events screen of a session. -/
def openedAtEvents : Console :=
  (Console.new ⟨"http://localhost/api"⟩
    ⟨some (Credential.encode "ada" "lovelace"), Navigator.new .events⟩ none).opened ⟨0, ⟨0, 0⟩⟩

theorem reachable_run_openedAtEvents (steps : List (Moment × Step)) :
    Reachable (openedAtEvents.run steps) := ⟨_, _, _, _, steps, rfl⟩

/-- The search box has the keys. -/
def inSearchBox : Console := openedAtEvents.run [(⟨10, ⟨1, 0⟩⟩, .key (Key.char '/').press)]

/-- A page of one event came, and its record is open. -/
def inDetail : Console :=
  openedAtEvents.run
    [ (⟨10, ⟨1, 0⟩⟩, .send 0),
      (⟨20, ⟨2, 0⟩⟩, .answer 0 (.status 200 (some (Text.Utf8.encode
        "\x7b\"status\":\"success\",\"data\":[\x7b\x7d]\x7d".toList)))),
      (⟨30, ⟨3, 0⟩⟩, .deliver 0),
      (⟨40, ⟨4, 0⟩⟩, .key Key.enter.press) ]

/-- Types two characters that would quit and log out, and takes back the second. -/
def typesAndTakesBack : List (Moment × Step) :=
  [ (⟨50, ⟨5, 0⟩⟩, .key (Key.char 'q').press),
    (⟨60, ⟨6, 0⟩⟩, .tick),
    (⟨70, ⟨7, 0⟩⟩, .key (Key.char 'L').press),
    (⟨80, ⟨8, 0⟩⟩, .key Key.backspace.press) ]

theorem capturesKeys_searchAndDetail :
    (inDetail.route = .events ∧ inDetail.events.detail.isSome = true ∧ CapturesKeys inDetail) ∧
      inSearchBox.route = .events ∧ inSearchBox.events.detail = none ∧
      inSearchBox.searching = true ∧ (inSearchBox.run typesAndTakesBack).searchText = ['q'] := by
  have inDetailOnEvents : inDetail.route = .events := by decide +kernel
  have inSearchOnEvents : inSearchBox.route = .events := by decide
  have captures := capturesKeys_of_reachable (reachable_run_openedAtEvents _) inSearchOnEvents
  have closed : inSearchBox.events.detail = none := by decide
  have searching : inSearchBox.searching = true := by decide
  exact ⟨⟨inDetailOnEvents, by decide +kernel,
      capturesKeys_of_reachable (reachable_run_openedAtEvents _) inDetailOnEvents⟩,
    inSearchOnEvents, closed, searching,
    captures.text closed searching typesAndTakesBack (by decide)⟩

end Console

end EventConsole
