import EventConsole.Proofs.EventBrowser.Provenance
import Mathlib.Data.List.Induction
import Mathlib.Logic.Function.Iterate

/-!
Contract: the types that the type filter goes through.

The known types are those of the events of every page that was taken in since the
start; none of them is empty, so that the empty text can stand for no filter. To
cycle takes the filter from no type through all of them in order and back.

Owns: the types of a run, the type after a given one, and a whole round.
-/

namespace EventConsole.EventBrowser

/-! ### Types of a run -/

/-- Some event of a page that was taken in with success has the type. -/
def HasTaken (operations : List Operation) (eventType : String) : Prop :=
  ∃ page, .finish (.ok page) ∈ operations ∧ page.isSuccess = true ∧
    ∃ event ∈ page.data.getD [], event.eventType = some eventType ∧ eventType ≠ ""

theorem filled_eq_some_iff {text : Option String} {value : String} :
    filled text = some value ↔ text = some value ∧ value ≠ "" := by
  simp [filled, Option.filter_eq_some_iff]

private theorem mem_keys_iff_get? {known : SortedMap String Unit} {eventType : String} :
    eventType ∈ known.keys ↔ known.get? eventType = some () := by
  rw [SortedMap.mem_keys_iff, Option.isSome_iff_exists]
  exact ⟨fun ⟨_, found⟩ => found, fun found => ⟨(), found⟩⟩

theorem mem_keys_learnTypes_iff {known : SortedMap String Unit} {events : List Event}
    {eventType : String} :
    eventType ∈ (learnTypes known events).keys ↔
      eventType ∈ known.keys ∨
        ∃ event ∈ events, event.eventType = some eventType ∧ eventType ≠ "" := by
  simp only [mem_keys_iff_get?, get?_learnTypes_iff, filled_eq_some_iff]

theorem hasTaken_append_iff {operations more : List Operation} {eventType : String} :
    HasTaken (operations ++ more) eventType ↔
      HasTaken operations eventType ∨ HasTaken more eventType := by
  simp only [HasTaken, List.mem_append, or_and_right, exists_or]

theorem hasTaken_singleton_iff {operation : Operation} {eventType : String} :
    HasTaken [operation] eventType ↔
      ∃ page, operation = .finish (.ok page) ∧ page.isSuccess = true ∧
        ∃ event ∈ page.data.getD [], event.eventType = some eventType ∧ eventType ≠ "" := by
  simp only [HasTaken, List.mem_singleton, eq_comm]

/-- Nothing but a page that is a success teaches types, and no type is forgotten. -/
theorem mem_knownTypes_operate_iff {browser : EventBrowser} {operation : Operation}
    {eventType : String} :
    eventType ∈ (browser.operate operation).knownTypes.keys ↔
      eventType ∈ browser.knownTypes.keys ∨ HasTaken [operation] eventType := by
  rw [hasTaken_singleton_iff]
  by_cases isOutcome : ∃ outcome, operation = .finish outcome
  case neg =>
    have kept := (keeps_perform browser fun outcome same => isOutcome ⟨outcome, same⟩).knownTypes
    rw [operate, kept, iff_self_or]
    rintro ⟨page, same, _⟩
    exact absurd ⟨_, same⟩ isOutcome
  case pos =>
    obtain ⟨outcome, rfl⟩ := isOutcome
    cases outcome with
    | error failure => simp [operate, perform, finishLoad]
    | ok page =>
        cases success : page.isSuccess with
        | true =>
            simp only [operate, perform, finishLoad, success, if_true, mem_keys_learnTypes_iff,
              Operation.finish.injEq, Except.ok.injEq, exists_eq_left', true_and]
        | false =>
            simp [operate, perform, finishLoad, success]

/-- The known types of a run are those of the pages it took in. -/
theorem mem_knownTypes_run_iff (pageSize : UInt32) (operations : List Operation)
    {eventType : String} :
    eventType ∈ ((withPageSize pageSize).run operations).knownTypes.keys ↔
      HasTaken operations eventType := by
  induction operations using List.reverseRecOn with
  | nil => simp [run, withPageSize, SortedMap.empty, SortedMap.keys, HasTaken]
  | append_singleton operations operation inductionHypothesis =>
      rw [run_concat, mem_knownTypes_operate_iff, inductionHypothesis, hasTaken_append_iff]

private theorem ne_empty_of_hasTaken {operations : List Operation} {eventType : String}
    (taken : HasTaken operations eventType) : eventType ≠ "" := by
  obtain ⟨_, _, _, _, _, _, filled⟩ := taken
  exact filled

/-! ### The next type -/

/-- The least known type above a value, or the empty text if there is none. -/
def IsNext (known : List String) (current next : String) : Prop :=
  (next ∈ known ∧ compare current next = .lt ∧
      ∀ other ∈ known, compare current other = .lt → other = next ∨ compare next other = .lt) ∨
    (next = "" ∧ ∀ other ∈ known, compare current other ≠ .lt)

private theorem compare_empty {text : String} (filled : text ≠ "") : compare "" text = .lt := by
  refine compareOfLessAndEq_eq_lt.mpr (String.lt_iff.mpr ?_)
  cases characters : text.toList with
  | nil => exact absurd (String.toList_eq_nil_iff.mp characters) filled
  | cons c rest => exact List.nil_lt_cons c rest

section Next

variable {known : SortedMap String Unit} {current : String}

/-- Without a filter, too, the next type is the first one above, as none is empty. -/
theorem nextType_eq (noEmpty : "" ∉ known.keys) :
    nextType known current =
      (known.keys.find? fun name => compare current name == .lt).getD "" := by
  unfold nextType
  split
  case isFalse => rfl
  case isTrue nothing =>
    obtain rfl : current = "" := String.isEmpty_iff.mp nothing
    cases names : known.keys with
    | nil => rfl
    | cons first rest =>
        have filled : first ≠ "" := fun isEmpty => noEmpty (by rw [names, isEmpty]; simp)
        have above : (compare "" first == .lt) = true := beq_iff_eq.mpr (compare_empty filled)
        simp only [List.find?_cons, above, List.head?_cons]

private theorem isNext_nextType (noEmpty : "" ∉ known.keys) :
    IsNext known.keys current (nextType known current) := by
  rw [nextType_eq noEmpty]
  cases found : known.keys.find? fun name => compare current name == .lt with
  | none =>
      refine .inr ⟨rfl, fun other member above => ?_⟩
      exact List.find?_eq_none.mp found other member (beq_iff_eq.mpr above)
  | some next =>
      obtain ⟨above, before, after, split, notBefore⟩ := List.find?_eq_some_iff_append.mp found
      have increasing := known.keys_increase
      rw [split] at increasing ⊢
      refine .inl ⟨by simp, beq_iff_eq.mp above, fun other member otherAbove => ?_⟩
      rcases List.mem_append.mp member with inBefore | inRest
      · have notAbove := notBefore other inBefore
        rw [otherAbove] at notAbove
        contradiction
      · exact (List.mem_cons.mp inRest).imp_right
          ((List.pairwise_cons.mp (List.pairwise_append.mp increasing).2.1).1 other)

/-- In increasing order the first name above another stands right after it. -/
theorem find?_above {before after : List String} {name : String}
    (increasing : (before ++ name :: after).Pairwise
      fun first second => compare first second = .lt) :
    (before ++ name :: after).find? (fun other => compare name other == .lt) = after.head? := by
  obtain ⟨_, fromName, below⟩ := List.pairwise_append.mp increasing
  have notBefore : ∀ other ∈ before, ¬ (compare name other == .lt) = true := by
    intro other member
    rw [Std.OrientedCmp.gt_of_lt (below other member name List.mem_cons_self)]
    decide
  have self : compare name name = .eq := Std.ReflCmp.compare_self
  rw [List.find?_append, List.find?_eq_none.mpr notBefore, Option.none_or, List.find?_cons, self]
  cases after with
  | nil => rfl
  | cons next rest =>
      have above := (List.pairwise_cons.mp fromName).1 next List.mem_cons_self
      simp only [List.find?_cons, above, List.head?_cons]
      rfl

/-- The known type at a place; behind the last there is none. -/
def typeAt (known : SortedMap String Unit) (place : Nat) : String := known.keys[place]?.getD ""

private theorem nextType_empty : nextType known "" = typeAt known 0 := by
  rw [typeAt, ← List.head?_eq_getElem?]
  rfl

/-- After the type at a place comes the one at the next place. -/
theorem nextType_typeAt (noEmpty : "" ∉ known.keys) {place : Nat}
    (inside : place < known.keys.length) :
    nextType known (typeAt known place) = typeAt known (place + 1) := by
  have split : known.keys =
      known.keys.take place ++ known.keys[place] :: known.keys.drop (place + 1) := by
    rw [← List.drop_eq_getElem_cons inside, List.take_append_drop]
  have increasing := known.keys_increase
  rw [split] at increasing
  have above := find?_above increasing
  rw [← split, List.head?_drop] at above
  rw [nextType_eq noEmpty, typeAt, List.getElem?_eq_getElem inside, Option.getD_some, above, typeAt]

end Next

/-! ### A whole round -/

/-- After some steps of a round that began without a filter, the filter is the type at
that place. -/
theorem eventType_iterate_cycleEventType {browser : EventBrowser}
    (noEmpty : "" ∉ browser.knownTypes.keys) (noFilter : browser.filter.eventType = "")
    {place : Nat} (inside : place ≤ browser.knownTypes.keys.length) :
    (cycleEventType^[place + 1] browser).knownTypes = browser.knownTypes ∧
      (cycleEventType^[place + 1] browser).filter.eventType = typeAt browser.knownTypes place := by
  induction place with
  | zero => exact ⟨rfl, (congrArg (nextType browser.knownTypes) noFilter).trans nextType_empty⟩
  | succ place inductionHypothesis =>
      obtain ⟨known, isType⟩ := inductionHypothesis (by omega)
      rw [Function.iterate_succ_apply']
      refine ⟨known, ?_⟩
      calc nextType (cycleEventType^[place + 1] browser).knownTypes
            (cycleEventType^[place + 1] browser).filter.eventType
          = nextType browser.knownTypes (typeAt browser.knownTypes place) := by rw [known, isType]
        _ = typeAt browser.knownTypes (place + 1) := nextType_typeAt noEmpty (by omega)

/-- The known types of a run stand in increasing order and are the types of the pages that
it took in; more operations forget none of them. From no filter, as many steps as there are
types take the filter through all of them in order, and one more step ends the round. From
any value, known or not, a step leads to the least type above it, or to no filter. -/
theorem cyclesTypes_run (pageSize : UInt32) (operations : List Operation) :
    let browser := (withPageSize pageSize).run operations
    let known := browser.knownTypes.keys
    (known.Pairwise (fun first second => compare first second = .lt) ∧
      (∀ eventType, eventType ∈ known ↔ HasTaken operations eventType) ∧
      ∀ more, known ⊆ (browser.run more).knownTypes.keys) ∧
    (browser.filter.eventType = "" →
      (∀ place (inside : place < known.length),
        (cycleEventType^[place + 1] browser).filter.eventType = known[place]) ∧
      (cycleEventType^[known.length + 1] browser).filter.eventType = "") ∧
    IsNext known browser.filter.eventType browser.cycleEventType.filter.eventType := by
  intro browser known
  have isKnown {eventType : String} : eventType ∈ known ↔ HasTaken operations eventType :=
    mem_knownTypes_run_iff pageSize operations
  have noEmpty : "" ∉ known := fun member => ne_empty_of_hasTaken (isKnown.mp member) rfl
  refine ⟨⟨browser.knownTypes.keys_increase, fun _ => isKnown, ?_⟩, fun noFilter => ⟨?_, ?_⟩, ?_⟩
  · intro more eventType member
    rw [← run_append, mem_knownTypes_run_iff, hasTaken_append_iff]
    exact .inl (isKnown.mp member)
  · intro place inside
    rw [(eventType_iterate_cycleEventType noEmpty noFilter (Nat.le_of_lt inside)).2, typeAt,
      List.getElem?_eq_getElem inside]
    rfl
  · rw [(eventType_iterate_cycleEventType noEmpty noFilter (Nat.le_refl _)).2, typeAt,
      List.getElem?_eq_none (Nat.le_refl _)]
    rfl
  · exact isNext_nextType noEmpty

/-- Events of two types, and one whose type is empty. -/
def twoTypes : EventsPage :=
  { (default : EventsPage) with
    status := some "success"
    data := some
      [{ (default : Event) with eventType := some "login" },
        { (default : Event) with eventType := some "" },
        { (default : Event) with eventType := some "exit" }] }

/-- Three steps go round two types. -/
theorem cyclesTypes_twoTypes :
    let browser := (withPageSize 50).run [.load, .finish (.ok twoTypes)]
    browser.filter.eventType = "" ∧ browser.knownTypes.keys = ["exit", "login"] ∧
      (cycleEventType^[1] browser).filter.eventType = "exit" ∧
      (cycleEventType^[2] browser).filter.eventType = "login" ∧
      (cycleEventType^[3] browser).filter.eventType = "" := by
  intro browser
  have noFilter : browser.filter.eventType = "" := rfl
  have names : browser.knownTypes.keys = ["exit", "login"] := by decide +kernel
  have two : browser.knownTypes.keys.length = 2 := by rw [names]; rfl
  obtain ⟨places, round⟩ :=
    (cyclesTypes_run 50 [.load, .finish (.ok twoTypes)]).2.1 noFilter
  have first := places 0 (show 0 < browser.knownTypes.keys.length by omega)
  have second := places 1 (show 1 < browser.knownTypes.keys.length by omega)
  refine ⟨noFilter, names, ?_, ?_, ?_⟩
  · exact first.trans (List.getElem_of_eq names _)
  · exact second.trans (List.getElem_of_eq names _)
  · rw [show ((withPageSize 50).run [.load, .finish (.ok twoTypes)]).knownTypes.keys.length = 2
      from two] at round
    exact round

end EventConsole.EventBrowser
