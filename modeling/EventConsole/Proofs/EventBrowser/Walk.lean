import EventConsole.Proofs.EventBrowser.Paging
import Mathlib.Data.List.Forall2

/-!
Contract: walking through a store page by page shows every event once.

Owns: walks forward and back, the pages on which they stand, and that the
walk from the first page to the last and back is the only one.
-/

namespace EventConsole.EventBrowser

open Demo

/-- The browsers that a walk shows: it turns the page as long as it may, and
every page that it asks for is loaded. -/
inductive Walk (store : Store) (may : EventBrowser → Bool)
    (turn : EventBrowser → Option Fetch × EventBrowser) : EventBrowser → List EventBrowser → Prop
  | stop {browser} (ended : may browser = false) : Walk store may turn browser [browser]
  | go {browser next rest} (goes : may browser = true) (loads : Loads store (turn browser) next)
      (onward : Walk store may turn next rest) : Walk store may turn browser (browser :: rest)

theorem Walk.unique {store : Store} {may : EventBrowser → Bool}
    {turn : EventBrowser → Option Fetch × EventBrowser} {browser : EventBrowser}
    {first second : List EventBrowser} (one : Walk store may turn browser first)
    (other : Walk store may turn browser second) : first = second := by
  induction one generalizing second with
  | stop ended =>
      cases other with
      | stop => rfl
      | go goes => exact absurd (goes.symm.trans ended) Bool.noConfusion
  | go goes loads _ inductionHypothesis =>
      cases other with
      | stop ended => exact absurd (goes.symm.trans ended) Bool.noConfusion
      | go _ loads' onward' =>
          cases loads.unique loads'
          rw [inductionHypothesis onward']

/-! ### Pages under way -/

section Walking

variable {store : Store} {events : List Event} {size : Nat}
  (decoded : store.events.mapM Event.ofJson? = some events)
  (few : events.length < powerOf 2 32)
  (positive : 1 ≤ size) (honoured : size ≤ PageRequest.maximumLimit)
include decoded few positive honoured

/-- By induction on the number of pages that remain. -/
theorem exists_walk_forward {number remaining : Nat} {browser : EventBrowser}
    (here : OnPage events size number browser)
    (remains : number + remaining = pagesOf events.length size) :
    ∃ visits, Walk store canGoOn nextPage browser visits ∧
      List.Forall₂ (OnPage events size) (List.range' number (remaining + 1)) visits := by
  induction remaining generalizing number browser with
  | zero =>
      have ended : browser.canGoOn = false := by
        rw [Bool.eq_false_iff, ne_eq, here.canGoOn_iff]
        omega
      exact ⟨[browser], .stop ended, .cons here .nil⟩
  | succ remaining inductionHypothesis =>
      obtain ⟨next, loads, there⟩ :=
        exists_loads_nextPage decoded few positive honoured here (by omega)
      obtain ⟨rest, onward, pages⟩ := inductionHypothesis there (by omega)
      have goes : browser.canGoOn = true := here.canGoOn_iff.mpr (by omega)
      exact ⟨browser :: rest, .go goes loads onward, .cons here pages⟩

private theorem exists_walk_back {number : Nat} {browser : EventBrowser}
    (here : OnPage events size (number + 1) browser) :
    ∃ visits, Walk store canGoBack previousPage browser visits ∧
      List.Forall₂ (OnPage events size) (List.range' 1 (number + 1)).reverse visits := by
  induction number generalizing browser with
  | zero =>
      have ended : browser.canGoBack = false := by
        rw [Bool.eq_false_iff, ne_eq, here.canGoBack_iff]
        omega
      exact ⟨[browser], .stop ended, .cons here .nil⟩
  | succ number inductionHypothesis =>
      obtain ⟨before, loads, there⟩ :=
        exists_loads_previousPage decoded few positive honoured here (Nat.le_add_left 1 number)
      obtain ⟨rest, onward, pages⟩ := inductionHypothesis there
      have goes : browser.canGoBack = true := here.canGoBack_iff.mpr (by omega)
      refine ⟨browser :: rest, .go goes loads onward, ?_⟩
      rw [List.range'_1_concat, List.reverse_concat, Nat.add_comm 1]
      exact .cons here pages

end Walking

/-! ### Pages together -/

theorem flatMap_slice (events : List Event) (size pages : Nat) :
    (List.range' 1 pages).flatMap (fun number => slice events ⟨number, size⟩) =
      events.take (pages * size) := by
  induction pages with
  | zero => simp
  | succ pages inductionHypothesis =>
      rw [List.range'_1_concat, List.flatMap_append, inductionHypothesis, List.flatMap_singleton,
        slice, Nat.add_sub_cancel_left, Nat.succ_mul, List.take_add]

private theorem count_le_pagesOf_mul (count : Nat) {size : Nat} (positive : 1 ≤ size) :
    count ≤ pagesOf count size * size := by
  have divided := Nat.div_add_mod (count + (size - 1)) size
  have remainder : (count + (size - 1)) % size < size := Nat.mod_lt _ positive
  have rounded : count ≤ size * ((count + (size - 1)) / size) := by omega
  calc
    count ≤ (count + (size - 1)) / size * size := by rwa [Nat.mul_comm] at rounded
    _ ≤ pagesOf count size * size := Nat.mul_le_mul_right size (Nat.le_max_right _ _)

private theorem shownEvents_of_forall₂ {events : List Event} {size : Nat} {numbers : List Nat}
    {visits : List EventBrowser} (pages : List.Forall₂ (OnPage events size) numbers visits) :
    visits.flatMap shownEvents =
      numbers.flatMap (fun number => slice events ⟨number, size⟩) := by
  induction pages with
  | nil => rfl
  | cons here _ inductionHypothesis =>
      rw [List.flatMap_cons, List.flatMap_cons, inductionHypothesis, here.shownEvents_eq,
        here.loaded]

private theorem views_eq_of_forall₂ {events : List Event} {size : Nat} {numbers : List Nat}
    {first second : List EventBrowser} (one : List.Forall₂ (OnPage events size) numbers first)
    (other : List.Forall₂ (OnPage events size) numbers second) :
    first.map view = second.map view := by
  induction one generalizing second with
  | nil =>
      cases other
      rfl
  | cons here _ inductionHypothesis =>
      cases other with
      | cons there rest =>
          rw [List.map_cons, List.map_cons, here.view_eq there, inductionHypothesis rest]

theorem onPage_of_getElem? {events : List Event} {size pages index : Nat} {browser : EventBrowser}
    {visits : List EventBrowser}
    (onPages : List.Forall₂ (OnPage events size) (List.range' 1 pages) visits)
    (visited : visits[index]? = some browser) : OnPage events size (index + 1) browser := by
  obtain ⟨inVisits, isBrowser⟩ := List.getElem?_eq_some_iff.mp visited
  have inRange : index < (List.range' 1 pages).length := by rwa [onPages.length_eq]
  have there := onPages.get inRange inVisits
  rw [List.get_eq_getElem, List.get_eq_getElem, isBrowser, List.getElem_range', Nat.one_mul,
    Nat.add_comm] at there
  exact there

/-- The walk forward from the first page of a store, the walk back from its
last, and what they show. -/
structure WalksCover (store : Store) (events : List Event) (size : UInt32) (first : EventBrowser)
    (visits back : List EventBrowser) : Prop where
  served : ∀ server fetch, server.store = store → Serves server fetch (answerValue store fetch)
  opening : ∀ browser, Loads store (withPageSize size).load browser ↔ browser = first
  forward : ∀ walked, Walk store canGoOn nextPage first walked ↔ walked = visits
  count : visits.length = max 1 ((events.length + (size.toNat - 1)) / size.toNat)
  covers : visits.flatMap shownEvents = events
  labels : 0 < events.length → ∀ browser ∈ visits, NamesPlaces events browser
  ends : ∀ index browser, visits[index]? = some browser →
    (browser.canGoBack = false ↔ index = 0) ∧
      (browser.canGoOn = false ↔ index + 1 = visits.length)
  backward : ∃ last, visits.getLast? = some last ∧
    ∀ walked, Walk store canGoBack previousPage last walked ↔ walked = back
  sameViews : back.map view = (visits.map view).reverse

/-- A store of events, loaded page by page until no page is left, is shown whole
and in order, and once more on the way back. -/
theorem exists_walksCover {store : Store} {events : List Event} {size : UInt32}
    (decoded : store.events.mapM Event.ofJson? = some events)
    (few : events.length < powerOf 2 32) (positive : 1 ≤ size.toNat)
    (honoured : size.toNat ≤ PageRequest.maximumLimit) :
    ∃ first visits back, WalksCover store events size first visits back := by
  have pagesPositive : 1 ≤ pagesOf events.length size.toNat := Nat.le_max_left _ _
  -- `before` pages lie behind the last one; an empty store still has one page.
  obtain ⟨before, pagesSucc⟩ : ∃ before, pagesOf events.length size.toNat = before + 1 :=
    ⟨_, (Nat.sub_add_cancel pagesPositive).symm⟩
  have sized : (withPageSize size).pageSize.toNat = size.toNat := by
    change (if size ≤ 1 then 1 else size).toNat = size.toNat
    split
    case isTrue small =>
      exact Nat.le_antisymm positive (UInt32.le_iff_toNat_le.mp small)
    case isFalse => rfl
  obtain ⟨first, opening, onFirst⟩ :
      ∃ first, Loads store (withPageSize size).load first ∧ OnPage events size.toNat 1 first :=
    exists_loads_load decoded few positive honoured rfl rfl sized ⟨Nat.le_refl 1, pagesPositive⟩
  obtain ⟨visits, forward, pages⟩ :=
    exists_walk_forward decoded few positive honoured onFirst (show 1 + before = _ by omega)
  have count : visits.length = before + 1 := by
    rw [← pages.length_eq, List.length_range']
  obtain ⟨last, isLast⟩ : ∃ last, visits[before]? = some last :=
    ⟨_, List.getElem?_eq_getElem (by omega)⟩
  obtain ⟨back, backward, pagesBack⟩ :=
    exists_walk_back decoded few positive honoured (onPage_of_getElem? pages isLast)
  refine ⟨first, visits, back,
    { served := fun server fetch holds => holds ▸ serves_answerValue server fetch
      opening := fun browser => ⟨fun loads => loads.unique opening, fun same => same ▸ opening⟩
      forward := fun walked => ⟨fun walks => walks.unique forward, fun same => same ▸ forward⟩
      count := count.trans pagesSucc.symm
      covers := ?covers
      labels := ?labels
      ends := ?ends
      backward := ⟨last, ?isLast, fun walked =>
        ⟨fun walks => walks.unique backward, fun same => same ▸ backward⟩⟩
      sameViews := ?sameViews }⟩
  case covers =>
    rw [shownEvents_of_forall₂ pages, flatMap_slice, ← pagesSucc]
    exact List.take_of_length_le (count_le_pagesOf_mul events.length positive)
  case labels =>
    intro some browser member
    obtain ⟨index, visited⟩ := List.getElem?_of_mem member
    exact (onPage_of_getElem? pages visited).namesPlaces some positive
  case ends =>
    intro index browser visited
    have here := onPage_of_getElem? pages visited
    have below : index < visits.length := (List.getElem?_eq_some_iff.mp visited).1
    rw [Bool.eq_false_iff, Bool.eq_false_iff, ne_eq, ne_eq, here.canGoBack_iff, here.canGoOn_iff]
    omega
  case isLast => rw [List.getLast?_eq_getElem?, count, Nat.add_sub_cancel, isLast]
  case sameViews =>
    rw [← List.map_reverse]
    exact views_eq_of_forall₂ pagesBack (List.forall₂_reverse_iff.mpr pages)

/-- Three events, of which only the second is a full one. -/
def threeEvents : Store where
  events :=
    [.object [("event_type", .string "login")],
      .object [("event_type", .string "logout"), ("severity", .string "high")],
      .object []]

theorem walksCover_threeEvents :
    ∃ events first visits back,
      threeEvents.events.mapM Event.ofJson? = some events ∧ events.length = 3 ∧
        WalksCover threeEvents events 2 first visits back := by
  obtain ⟨events, decoded⟩ : ∃ events, threeEvents.events.mapM Event.ofJson? = some events :=
    Option.isSome_iff_exists.mp rfl
  have length : events.length = 3 := (length_of_mapM decoded).symm
  have few : events.length < powerOf 2 32 := by
    rw [length]
    decide
  have covered : ∃ first visits back, WalksCover threeEvents events 2 first visits back :=
    exists_walksCover decoded few (by decide) (by decide)
  obtain ⟨first, visits, back, covers⟩ := covered
  exact ⟨events, first, visits, back, decoded, length, covers⟩

end EventConsole.EventBrowser
