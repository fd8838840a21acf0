import EventConsole.Proofs.EventBrowser.WellFormed
import EventConsole.Proofs.Json.Tokens

/-!
Contract: how keys and the wheel scroll an open detail.

A step leads to the clamped sum, but the position is a word of 16 bits and takes no
more than that of it. A record has any number of lines, so that the word is enough
for some details and not for others.

Owns: the steps, what a sequence of them does to a detail of any number of lines, and
that a detail is always scrolled to one of its lines.

Does not own: scrolling in a detail of more lines than a signed word of 32 bits
counts, which ends the console.
-/

namespace EventConsole.EventBrowser

/-- The steps by which keys and the wheel scroll a detail. -/
def scrollSteps : List Int := [-10, -1, 1, 10]

/-- What keys and the mouse can do to an open detail. -/
def LeavesOrScrolls (browser after : EventBrowser) : Prop :=
  after = browser ∨ after = browser.closeDetail ∨
    ∃ step ∈ scrollSteps, after = browser.scrollDetail step

/-- A line moved by a step, within the numbers of `count` lines. -/
def clampedSum (count line : Nat) (step : Int) : Nat :=
  (max 0 (min ((count - 1 : Nat) : Int) (line + step))).toNat

/-- A detail of some number of lines is open and scrolled to one of them. -/
def IsAt (browser : EventBrowser) (count line : Nat) : Prop :=
  ∃ detail, browser.detail = some detail ∧ detail.lines.length = count ∧
    detail.scroll.toNat = line

/-- Scrolls by steps one after another. -/
def scrollAll (browser : EventBrowser) (steps : List Int) : EventBrowser :=
  browser.run (steps.map .scrollDetail)

/-- Every step moves the detail by the clamped sum. -/
def MovesBySums (browser : EventBrowser) (count : Nat) : Prop :=
  ∀ steps ⊆ scrollSteps, ∀ line, (browser.scrollAll steps).IsAt count line →
    ∀ step ∈ scrollSteps,
      ((browser.scrollAll steps).scrollDetail step).IsAt count (clampedSum count line step)

/-- No step down goes back. -/
def NeverGoesBack (browser : EventBrowser) (count : Nat) : Prop :=
  ∀ steps ⊆ scrollSteps, ∀ line, (browser.scrollAll steps).IsAt count line →
    ∀ step ∈ scrollSteps, 0 < step → ∀ later,
      ((browser.scrollAll steps).scrollDetail step).IsAt count later → line ≤ later

/-! ### Keys and the wheel -/

theorem leavesOrScrolls_handleKey {browser : EventBrowser} (isOpen : browser.detail.isSome = true)
    (searching : Bool) (key : Key) (now : Int) :
    LeavesOrScrolls browser (browser.handleKey searching key now).2.browser := by
  rw [handleKey, if_pos isOpen]
  unfold handleDetailKey
  split
  case h_1 | h_2 | h_3 => exact .inr (.inl rfl)
  case h_4 | h_5 | h_6 | h_7 => exact .inr (.inr ⟨_, by decide, rfl⟩)
  case h_8 => exact .inl rfl

private theorem leavesOrScrolls_handleMouse {browser : EventBrowser}
    (isOpen : browser.detail.isSome = true)
    (layout : EventsLayout) (offset : Nat) (area : Option Screen.Rect) (event : MouseEvent) :
    LeavesOrScrolls browser (browser.handleMouse layout offset area event).2 := by
  rw [handleMouse, if_pos isOpen]
  unfold handleDetailMouse
  split
  · split
    · exact .inr (.inl rfl)
    · exact .inl rfl
  · exact .inr (.inr ⟨-1, by decide, rfl⟩)
  · exact .inr (.inr ⟨1, by decide, rfl⟩)
  · exact .inl rfl

/-- Each of the steps has a key of its own. -/
theorem exists_key_of_mem_scrollSteps (browser : EventBrowser) {step : Int}
    (isStep : step ∈ scrollSteps) :
    ∃ key, browser.handleDetailKey key = browser.scrollDetail step := by
  simp only [scrollSteps, List.mem_cons, List.not_mem_nil, or_false] at isStep
  rcases isStep with rfl | rfl | rfl | rfl
  · exact ⟨.pageUp, rfl⟩
  · exact ⟨.up, rfl⟩
  · exact ⟨.down, rfl⟩
  · exact ⟨.pageDown, rfl⟩

/-! ### One step -/

theorem lastLine_of_le {detail : EventDetail} (few : detail.lines.length ≤ powerOf 2 31) :
    EventDetail.lastLine detail = (detail.lines.length - 1 : Nat) := by
  have half : powerOf 2 31 = 2147483648 := by decide
  have word : powerOf 2 32 = 4294967296 := by decide
  unfold EventDetail.lastLine
  apply Int.bmod_eq_of_le <;> omega

/-- Where a step leads, as far as it fits the word of the position. -/
theorem toNat_scroll_scrollBy {detail : EventDetail} (few : detail.lines.length ≤ powerOf 2 31)
    (step : Int) : (EventDetail.scrollBy detail step).scroll.toNat =
      clampedSum detail.lines.length detail.scroll.toNat step % 65536 := by
  rw [EventDetail.scrollBy, lastLine_of_le few]
  exact UInt16.toNat_ofNat'

private theorem clampedSum_lt {count line : Nat} (filled : 0 < count) (step : Int) :
    clampedSum count line step < count := by
  unfold clampedSum
  omega

/-- An open detail is scrolled to one of its lines. -/
def ShowsLine (browser : EventBrowser) : Prop :=
  ∀ detail, browser.detail = some detail → detail.scroll.toNat < detail.lines.length

theorem ShowsLine.of_detail_eq {before after : EventBrowser} (shows : before.ShowsLine)
    (same : after.detail = before.detail) : after.ShowsLine := by
  intro detail isOpen
  exact shows detail (same ▸ isOpen)

section Steps

variable {browser : EventBrowser}

private theorem showsLine_openDetail (shows : browser.ShowsLine) (row : Nat) :
    (browser.openDetail row).2.ShowsLine := by
  unfold openDetail
  split
  case h_1 => exact shows
  case h_2 event _ =>
    intro detail isOpen
    obtain rfl := Option.some.inj isOpen
    exact List.length_pos_iff.mpr (lines_ne_nil event.record)

private theorem showsLine_scrollDetail (shows : browser.ShowsLine) (step : Int) :
    (browser.scrollDetail step).ShowsLine := by
  intro detail isOpen
  obtain ⟨earlier, wasOpen, rfl⟩ := Option.map_eq_some_iff.mp isOpen
  have filled : 0 < earlier.lines.length := Nat.zero_lt_of_lt (shows earlier wasOpen)
  show (EventDetail.scrollBy earlier step).scroll.toNat < earlier.lines.length
  by_cases few : earlier.lines.length ≤ 65536
  · have half : powerOf 2 31 = 2147483648 := by decide
    rw [toNat_scroll_scrollBy (by omega)]
    exact Nat.lt_of_le_of_lt (Nat.mod_le _ _) (clampedSum_lt filled step)
  · have inWord := (EventDetail.scrollBy earlier step).scroll.toNat_lt
    omega

private theorem showsLine_operate (shows : browser.ShowsLine) (operation : Operation) :
    (browser.operate operation).ShowsLine := by
  cases operation with
  | load => exact shows.of_detail_eq (detail_load browser)
  | previousPage => exact shows.of_detail_eq (detail_previousPage browser)
  | nextPage => exact shows.of_detail_eq (detail_nextPage browser)
  | finish outcome => exact shows.of_detail_eq (browser.focus_finishLoad outcome).1
  | tick now => exact shows.of_detail_eq (browser.focus_tick now).1
  | popSearch now => exact shows.of_detail_eq (detail_popSearch browser now)
  | openDetail row => exact showsLine_openDetail shows row
  | openSelected => exact showsLine_openDetail shows browser.selected
  | scrollDetail step => exact showsLine_scrollDetail shows step
  | closeDetail =>
      intro detail isOpen
      contradiction
  | setSearch | pushSearch | setSeverity | setEventType | cycleSeverity | cycleEventType
  | clearFilter | applyFilter | select | selectNext | selectPrevious | selectLast =>
      exact shows.of_detail_eq rfl

theorem showsLine_run (shows : browser.ShowsLine) (operations : List Operation) :
    (browser.run operations).ShowsLine := by
  induction operations generalizing browser with
  | nil => exact shows
  | cons operation rest inductionHypothesis =>
      exact inductionHypothesis (showsLine_operate shows operation)

end Steps

/-! ### Steps one after another -/

section Scrolling

variable {browser : EventBrowser} {count line : Nat}

theorem scrollAll_concat (browser : EventBrowser) (steps : List Int) (step : Int) :
    browser.scrollAll (steps ++ [step]) = (browser.scrollAll steps).scrollDetail step := by
  rw [scrollAll, List.map_append]
  exact run_concat browser (steps.map .scrollDetail) (.scrollDetail step)

private theorem IsAt.line_lt (isAt : browser.IsAt count line) : line < 65536 := by
  obtain ⟨detail, _, _, rfl⟩ := isAt
  exact detail.scroll.toNat_lt

theorem IsAt.unique (isAt : browser.IsAt count line) {other : Nat}
    (isAtOther : browser.IsAt count other) : line = other := by
  obtain ⟨detail, isOpen, _, rfl⟩ := isAt
  obtain ⟨same, isSame, _, rfl⟩ := isAtOther
  obtain rfl := Option.some.inj (isOpen.symm.trans isSame)
  rfl

private theorem IsAt.line_lt_count (isAt : browser.IsAt count line) (shows : browser.ShowsLine) :
    line < count := by
  obtain ⟨detail, isOpen, rfl, rfl⟩ := isAt
  exact shows detail isOpen

theorem IsAt.scrollDetail (isAt : browser.IsAt count line) (few : count ≤ powerOf 2 31)
    (step : Int) : (browser.scrollDetail step).IsAt count (clampedSum count line step % 65536) := by
  obtain ⟨detail, isOpen, rfl, rfl⟩ := isAt
  refine ⟨EventDetail.scrollBy detail step, ?_, rfl, toNat_scroll_scrollBy few step⟩
  rw [EventBrowser.scrollDetail, isOpen, Option.map_some]

/-- Steps keep the detail open, whatever its number of lines. -/
theorem IsAt.scrollAll (isAt : browser.IsAt count line) (steps : List Int) :
    ∃ later, (browser.scrollAll steps).IsAt count later := by
  induction steps using List.reverseRecOn with
  | nil => exact ⟨line, isAt⟩
  | append_singleton steps step inductionHypothesis =>
      obtain ⟨later, detail, isOpen, isCount, _⟩ := inductionHypothesis
      refine ⟨_, EventDetail.scrollBy detail step, ?_, isCount, rfl⟩
      rw [scrollAll_concat, EventBrowser.scrollDetail, isOpen, Option.map_some]

private theorem movesBySums_of_le (few : count ≤ 65536) (filled : 0 < count) :
    browser.MovesBySums count := by
  intro steps _ line isAt step _
  have half : powerOf 2 31 = 2147483648 := by decide
  have moved := isAt.scrollDetail (by omega) step
  have inWord : clampedSum count line step < 65536 :=
    Nat.lt_of_lt_of_le (clampedSum_lt filled step) few
  rwa [Nat.mod_eq_of_lt inWord] at moved

private theorem neverGoesBack_of_movesBySums (shows : browser.ShowsLine)
    (moves : browser.MovesBySums count) : browser.NeverGoesBack count := by
  intro steps areSteps line isAt step isStep isDown later isAtLater
  have onLine := isAt.line_lt_count (showsLine_run shows (steps.map .scrollDetail))
  rw [isAtLater.unique (moves steps areSteps line isAt step isStep)]
  unfold clampedSum
  omega

/-- Ten lines down, again and again, would lead beyond the last word. -/
theorem not_advances (isAt : browser.IsAt count line)
    (advances : ∀ times line, (browser.scrollAll (List.replicate times 10)).IsAt count line →
      ∃ later, ((browser.scrollAll (List.replicate times 10)).scrollDetail 10).IsAt count later ∧
        min 65536 (line + 10) ≤ later) : False := by
  have far (times : Nat) : ∃ line,
      (browser.scrollAll (List.replicate times 10)).IsAt count line ∧
        min 65536 (times * 10) ≤ line := by
    induction times with
    | zero => exact ⟨line, isAt, by omega⟩
    | succ times inductionHypothesis =>
        obtain ⟨line, isAt, isFar⟩ := inductionHypothesis
        obtain ⟨later, isAtLater, further⟩ := advances times line isAt
        rw [List.replicate_succ', scrollAll_concat]
        exact ⟨later, isAtLater, by omega⟩
  obtain ⟨line, isAt, isFar⟩ := far 6554
  have inWord := isAt.line_lt
  omega

private theorem replicate_subset_scrollSteps (times : Nat) :
    List.replicate times (10 : Int) ⊆ scrollSteps := by
  intro step isStep
  rw [List.eq_of_mem_replicate isStep]
  decide

private theorem not_movesBySums (isAt : browser.IsAt count line) (many : 65536 < count) :
    ¬ browser.MovesBySums count := by
  intro moves
  refine not_advances isAt fun times line isAt => ?_
  refine ⟨_, moves _ (replicate_subset_scrollSteps times) line isAt 10 (by decide), ?_⟩
  unfold clampedSum
  omega

private theorem not_neverGoesBack (isAt : browser.IsAt count line) (many : 65536 < count)
    (few : count ≤ powerOf 2 31) : ¬ browser.NeverGoesBack count := by
  intro neverBack
  refine not_advances isAt fun times line isAt => ?_
  have moved := isAt.scrollDetail few 10
  have forth := neverBack _ (replicate_subset_scrollSteps times) line isAt 10 (by decide)
    (by decide) _ moved
  refine ⟨_, moved, ?_⟩
  have inWord := isAt.line_lt
  unfold clampedSum at *
  omega

end Scrolling

/-- How keys and the wheel scroll an open detail of `count` lines: by clamped sums, as
far as they fit the word of the position. They do as long as every line has its own
number in that word, and only so long. -/
structure ScrollsInWord (browser : EventBrowser) (count : Nat) : Prop where
  keys : ∀ searching key now,
    LeavesOrScrolls browser (browser.handleKey searching key now).2.browser
  mouse : ∀ layout offset area event,
    LeavesOrScrolls browser (browser.handleMouse layout offset area event).2
  everyStep : ∀ step ∈ scrollSteps, ∃ key,
    browser.handleDetailKey key = browser.scrollDetail step
  onLine : count ≤ powerOf 2 31 → ∀ steps,
    ∃ line < count, (browser.scrollAll steps).IsAt count line
  wraps : count ≤ powerOf 2 31 → ∀ steps line, (browser.scrollAll steps).IsAt count line →
    ∀ step, ((browser.scrollAll steps).scrollDetail step).IsAt count
      (clampedSum count line step % 65536)
  sums : browser.MovesBySums count ↔ count ≤ 65536
  forth : count ≤ powerOf 2 31 → (browser.NeverGoesBack count ↔ count ≤ 65536)

private theorem scrollsInWord_of_showsLine {browser : EventBrowser} (shows : browser.ShowsLine)
    {detail : EventDetail} (isOpen : browser.detail = some detail) :
    ScrollsInWord browser detail.lines.length := by
  have isSome : browser.detail.isSome = true := Option.isSome_iff_exists.mpr ⟨detail, isOpen⟩
  have isAt : browser.IsAt detail.lines.length detail.scroll.toNat := ⟨detail, isOpen, rfl, rfl⟩
  have filled : 0 < detail.lines.length := Nat.zero_lt_of_lt (shows detail isOpen)
  refine
    { keys := leavesOrScrolls_handleKey isSome
      mouse := leavesOrScrolls_handleMouse isSome
      everyStep := fun step isStep => browser.exists_key_of_mem_scrollSteps isStep
      wraps := fun few steps line isAt step => isAt.scrollDetail few step
      onLine := ?onLine, sums := ⟨?sumsEnd, ?sums⟩, forth := fun few => ⟨?forthEnds, ?forth⟩ }
  case onLine =>
    intro _ steps
    obtain ⟨later, isAtLater⟩ := isAt.scrollAll steps
    exact ⟨later, isAtLater.line_lt_count (showsLine_run shows _), isAtLater⟩
  case sumsEnd =>
    intro moves
    by_contra many
    exact not_movesBySums isAt (Nat.lt_of_not_le many) moves
  case sums => exact fun few => movesBySums_of_le few filled
  case forthEnds =>
    intro neverBack
    by_contra many
    exact not_neverGoesBack isAt (Nat.lt_of_not_le many) few neverBack
  case forth => exact fun few => neverGoesBack_of_movesBySums shows (movesBySums_of_le few filled)

/-- Whatever was done to a browser of any page size before. -/
theorem scrollsInWord_run (size : UInt32) (operations : List Operation) {detail : EventDetail}
    (isOpen : ((withPageSize size).run operations).detail = some detail) :
    ScrollsInWord ((withPageSize size).run operations) detail.lines.length := by
  have shows : (withPageSize size).ShowsLine := fun _ isSome => by contradiction
  exact scrollsInWord_of_showsLine (showsLine_run shows operations) isOpen

/-! ### A long record -/

section LongRecord

open Json

/-- Items of one line each take a line each. -/
theorem length_itemLines {depth : Nat} {items : List Value}
    (single : ∀ item ∈ items, (Value.linesAt depth item).length = 1) :
    (Value.itemLines depth items).length = items.length := by
  have opened {item : Value} (isItem : item ∈ items) :
      ∃ line, Value.openFirst (Value.indent depth) (Value.linesAt depth item) = [line] := by
    obtain ⟨line, isLine⟩ := List.length_eq_one_iff.mp (single item isItem)
    exact ⟨_, by rw [isLine]; rfl⟩
  induction items with
  | nil => rfl
  | cons item rest inductionHypothesis =>
      obtain ⟨line, isLine⟩ := opened List.mem_cons_self
      have later := inductionHypothesis (fun other isOther => single other (.tail item isOther))
        (fun isOther => opened (.tail item isOther))
      cases rest with
      | nil => rw [Value.itemLines, isLine]; rfl
      | cons next rest =>
          rw [Value.itemLines, isLine, List.length_append, later]
          · exact Nat.add_comm 1 _
          · exact List.cons_ne_nil next rest

/-- An object with a list of nulls as its only member. -/
def listRecord (count : Nat) : Value :=
  .object [("values", .array (List.replicate count .null))]

/-- Each null has a line, and so has every bracket and brace. -/
theorem length_lines_listRecord (count : Nat) :
    (Highlight.lines (listRecord (count + 1))).length = count + 5 := by
  have items : (Value.itemLines 2 (List.replicate (count + 1) .null)).length = _ :=
    length_itemLines fun item isItem => by rw [List.eq_of_mem_replicate isItem]; rfl
  rw [List.length_replicate, List.replicate_succ] at items
  rw [Highlight.lines, List.length_map, Value.prettyLines, listRecord, List.replicate_succ]
  simp only [Value.linesAt, Value.memberLines, Value.openFirst, List.cons_append, List.length_cons,
    List.length_append, List.length_nil, items]

/-- A page with a record as its only event. -/
def recordPage (record : Value) : EventsPage where
  status := some "success"
  data := some [{ (default : Event) with raw := record }]
  total := none
  count := none
  totalPages := none
  page := none
  limit := none

/-- A browser with a detail of one line more than the word of the position has
numbers. -/
def longDetail : EventBrowser :=
  new.run [.finish (.ok (recordPage (listRecord 65533))), .openDetail 0]

theorem scrollsInWord_longDetail :
    ∃ detail, longDetail.detail = some detail ∧ detail.lines.length = 65537 ∧
      ScrollsInWord longDetail 65537 ∧ ¬ longDetail.MovesBySums 65537 ∧
        ¬ longDetail.NeverGoesBack 65537 := by
  have isOpen : longDetail.detail = some ⟨"Event", Highlight.lines (listRecord 65533), 0⟩ := rfl
  have isCount := length_lines_listRecord 65532
  have scrolls : ScrollsInWord longDetail _ := scrollsInWord_run defaultPageSize _ isOpen
  rw [isCount] at scrolls
  refine ⟨_, isOpen, isCount, scrolls, ?_, ?_⟩
  · intro moves
    exact absurd (scrolls.sums.mp moves) (by decide)
  · intro neverBack
    exact absurd ((scrolls.forth (by decide)).mp neverBack) (by decide)

end LongRecord

end EventConsole.EventBrowser
