import EventConsole.Proofs.EventBrowser.WellFormed

/-!
Contract: how long a failed load stays in sight.

The error is shown until the filter is applied, be it at once or by a look at the
clock once an edited search text has waited. From then on the rows of an earlier
page stand in its place, or none.

Owns: what the phase tells while nothing is outstanding, and what every run after
a failure shows.

Does not own: which fetch the rows answered (`EventBrowser.Requests`).
-/

namespace EventConsole.EventBrowser

/-! ### Operations -/

section Kinds

variable {browser : EventBrowser} {operation : Operation}

private theorem applies_of_edit {now : Int} (isEdit : browser.editTime? operation = some now) :
    browser.applies operation = false := by
  cases operation with
  | setSearch | pushSearch | popSearch => rfl
  | _ => contradiction

private theorem applies_of_isFilter (isFilter : operation.isFilter = true) :
    browser.applies operation = true := by
  cases operation with
  | setSeverity | setEventType | cycleSeverity | cycleEventType | clearFilter | applyFilter => rfl
  | _ => contradiction

/-- Only an outcome ends a fetch. -/
theorem settled_of_settled_operate (noOutcome : ∀ outcome, operation ≠ .finish outcome)
    (settled : (browser.operate operation).loading = false) : browser.loading = false := by
  have counted := loading_perform browser noOutcome
  rw [show (browser.perform operation).2.loading = false from settled] at counted
  cases loading : browser.loading with
  | false => rfl
  | true =>
      rw [loading, Bool.toNat_true, Bool.toNat_false] at counted
      omega

end Kinds

/-- No operation of a run takes an outcome. -/
def Unanswered (operations : List Operation) : Prop :=
  ∀ operation ∈ operations, ∀ outcome, operation ≠ .finish outcome

theorem settled_of_settled_run {browser : EventBrowser} {operations : List Operation}
    (unanswered : Unanswered operations) (settled : (browser.run operations).loading = false) :
    browser.loading = false := by
  induction operations generalizing browser with
  | nil => exact settled
  | cons operation rest inductionHypothesis =>
      obtain ⟨noOutcome, restUnanswered⟩ := List.forall_mem_cons.mp unanswered
      exact settled_of_settled_operate noOutcome (inductionHypothesis restUnanswered settled)

/-! ### Phases while nothing is outstanding -/

/-- The last load failed, and its failure is in sight. -/
structure HoldsFailure (browser : EventBrowser) : Prop where
  settled : browser.loading = false
  phase : browser.phase = .failed

/-- The rows chosen last are in sight. -/
structure HoldsRows (browser : EventBrowser) : Prop where
  settled : browser.loading = false
  phase : browser.phase = phaseOf browser.shown

/-- What the table shows of the rows chosen last. -/
def chosenContent (browser : EventBrowser) : TableContent :=
  if browser.shown = [] then .noData else .rows (browser.shownEvents.map Row.ofEvent)

theorem HoldsFailure.content_eq {browser : EventBrowser} (holds : HoldsFailure browser) :
    browser.content = .failed := by
  unfold content
  rw [holds.phase]

theorem HoldsRows.content_eq {browser : EventBrowser} (holds : HoldsRows browser) :
    browser.content = browser.chosenContent := by
  unfold content chosenContent
  rw [holds.phase]
  cases shown : browser.shown with
  | nil => rfl
  | cons position rest => rfl

private theorem chosenContent_ne_failed (browser : EventBrowser) :
    browser.chosenContent ≠ .failed := by
  unfold chosenContent
  split <;> exact TableContent.noConfusion

theorem holdsRows_applyFilter {browser : EventBrowser} (settled : browser.loading = false) :
    HoldsRows browser.applyFilter where
  settled := settled
  phase := phase_applyFilter_of_free (by rw [settled]; exact Bool.false_ne_true)

section Steps

variable {browser : EventBrowser} {operation : Operation}
  (noOutcome : ∀ outcome, operation ≠ .finish outcome)
  (settled : (browser.operate operation).loading = false)
include noOutcome settled

theorem HoldsRows.operate (holds : HoldsRows browser) : HoldsRows (browser.operate operation) := by
  have effect := effect_perform browser operation
  unfold EventBrowser.operate at settled ⊢
  generalize browser.perform operation = result at effect settled
  cases effect with
  | looks | edits => exact ⟨holds.settled, holds.phase⟩
  | asks => contradiction
  | fails | succeeds | empties => exact absurd rfl (noOutcome _)
  | filters | fires => exact holdsRows_applyFilter holds.settled

/-- The failure stays in sight unless the operation applies the filter. -/
theorem HoldsFailure.operate (holds : HoldsFailure browser) :
    browser.applies operation = false ∧ HoldsFailure (browser.operate operation) ∨
      browser.applies operation = true ∧ HoldsRows (browser.operate operation) := by
  have effect := effect_perform browser operation
  unfold EventBrowser.operate at settled ⊢
  generalize browser.perform operation = result at effect settled
  cases effect with
  | looks selected detail noEdit noFilter => exact .inl ⟨noFilter, holds.settled, holds.phase⟩
  | asks => contradiction
  | fails | succeeds | empties => exact absurd rfl (noOutcome _)
  | edits text now isEdit => exact .inl ⟨applies_of_edit isEdit, holds.settled, holds.phase⟩
  | filters filter isFilter =>
      exact .inr ⟨applies_of_isFilter isFilter, holdsRows_applyFilter holds.settled⟩
  | fires now due => exact .inr ⟨due, holdsRows_applyFilter holds.settled⟩

end Steps

/-! ### Runs after a failure -/

/-- No operation of a run applies the filter. -/
def Unfiltered : EventBrowser → List Operation → Prop :=
  Without fun browser operation => browser.applies operation = true

section Runs

variable {browser : EventBrowser} {operations : List Operation}
  (unanswered : Unanswered operations) (settled : (browser.run operations).loading = false)
include unanswered settled

theorem HoldsRows.run (holds : HoldsRows browser) : HoldsRows (browser.run operations) := by
  induction operations generalizing browser with
  | nil => exact holds
  | cons operation rest inductionHypothesis =>
      obtain ⟨noOutcome, restUnanswered⟩ := List.forall_mem_cons.mp unanswered
      exact inductionHypothesis restUnanswered settled
        (holds.operate noOutcome (settled_of_settled_run restUnanswered settled))

theorem HoldsFailure.run (holds : HoldsFailure browser) :
    Unfiltered browser operations ∧ HoldsFailure (browser.run operations) ∨
      ¬ Unfiltered browser operations ∧ HoldsRows (browser.run operations) := by
  induction operations generalizing browser with
  | nil => exact .inl ⟨trivial, holds⟩
  | cons operation rest inductionHypothesis =>
      obtain ⟨noOutcome, restUnanswered⟩ := List.forall_mem_cons.mp unanswered
      have settledNext := settled_of_settled_run restUnanswered settled
      rcases holds.operate noOutcome settledNext with ⟨keeps, stillHolds⟩ | ⟨applies, rows⟩
      · have other : ¬ browser.applies operation = true := by
          rw [keeps]
          exact Bool.false_ne_true
        rcases inductionHypothesis restUnanswered settled stillHolds with
          ⟨unfiltered, inSight⟩ | ⟨filtered, rows⟩
        · exact .inl ⟨⟨other, unfiltered⟩, inSight⟩
        · exact .inr ⟨fun unfiltered => filtered unfiltered.2, rows⟩
      · -- Once the filter has been applied the failure does not come back.
        have stillRows := rows.run restUnanswered settled
        exact .inr ⟨fun unfiltered => unfiltered.1 applies, stillRows⟩

end Runs

/-- What the table shows after a failed load and some operations: the failure,
exactly as long as none of them applied the filter, and else the rows chosen. -/
structure ShowsFailure (failed : EventBrowser) (operations : List Operation) : Prop where
  inSight : (failed.run operations).content = .failed ↔ Unfiltered failed operations
  replaced : ¬ Unfiltered failed operations →
    (failed.run operations).content = (failed.run operations).chosenContent

/-- Whatever was done before the load failed, and whatever was done since, if it
was the last load to finish and no other is outstanding. -/
theorem showsFailure_run (size : UInt32) (before after : List Operation) (failure : Failure)
    (unanswered : Unanswered after)
    (settled : ((withPageSize size).run
      (before ++ .finish (.error failure) :: after)).loading = false) :
    ShowsFailure ((withPageSize size).run (before ++ [.finish (.error failure)])) after := by
  rw [List.append_cons, run_append] at settled
  have failed : HoldsFailure
      ((withPageSize size).run (before ++ [.finish (.error failure)])) := by
    rw [run_concat]
    exact ⟨rfl, rfl⟩
  rcases failed.run unanswered settled with ⟨unfiltered, inSight⟩ | ⟨filtered, rows⟩
  · exact ⟨iff_of_true inSight.content_eq unfiltered, fun filtered => absurd unfiltered filtered⟩
  · have replaced := rows.content_eq
    refine ⟨iff_of_false ?_ filtered, fun _ => replaced⟩
    rw [replaced]
    exact chosenContent_ne_failed _

/-- A page is loaded, and to load it again fails. -/
def failedReload : List Operation :=
  [.load, .finish (.ok twoEvents), .load, .finish (.error .transport)]

/-- An edit of the search text, and looks at the clock before and at its deadline. -/
def searchForLogin : List Operation := [.pushSearch 'l' 1000, .tick 1299, .tick 1300]

/-- The edit leaves the failure in sight, and the look at the clock that applies it
brings back a row of the page. -/
theorem showsFailure_failedReload :
    let failed := (withPageSize 50).run failedReload
    Unanswered searchForLogin ∧ (failed.run searchForLogin).loading = false ∧
      ShowsFailure failed searchForLogin ∧
      (failed.run (searchForLogin.take 2)).content = .failed ∧
      (failed.run searchForLogin).content =
        .rows [Row.ofEvent { (default : Event) with message := some "login" }] := by
  have unanswered : Unanswered searchForLogin := by simp [Unanswered, searchForLogin]
  exact ⟨unanswered, by decide,
    showsFailure_run 50 (failedReload.take 3) searchForLogin .transport unanswered (by decide),
    by decide, by decide⟩

end EventConsole.EventBrowser
