import EventConsole.Proofs.Dashboard.Outcomes
import EventConsole.View.Dashboard

/-!
Contract: the shares of a chart are shares of the sum of its counts, where they can be
drawn at all.

The counts are what the server says, and they are added in a word of 64 bits. As long
as their sum fits that word it is what the shares are of, and then no share is more
than the whole. Beyond it nothing is drawn, and with the chart the screen fails.

Owns: the total of the shares for all counts, and that the dashboard draws its shares of
that total after every sequence of outcomes.

Does not own: how a share is rounded to cells and to percents.
-/

namespace EventConsole

namespace View

open Screen

/-! ### Totals -/

/-- The sum of counts, or one where there is nothing to count. -/
def wholeTotal (values : List UInt64) : Nat := max (sumOf (values.map UInt64.toNat)) 1

/-- Adding word by word gives the sum, and fails only where the sum is no word. -/
theorem foldlM_addWord?_eq_some_iff {values : List UInt64} {start total : UInt64} :
    values.foldlM addWord? start = some total ↔
      total.toNat = start.toNat + sumOf (values.map UInt64.toNat) := by
  induction values generalizing start with
  | nil =>
      show some start = some total ↔ total.toNat = start.toNat + 0
      rw [Option.some.injEq, Nat.add_zero, eq_comm, UInt64.toNat_inj]
  | cons value rest inductionHypothesis =>
      rw [List.foldlM_cons, List.map_cons, sumOf, ← Nat.add_assoc]
      by_cases fits : start.toNat + value.toNat < powerOf 2 64
      · have sum : (start + value).toNat = start.toNat + value.toNat := by
          rw [UInt64.toNat_add]
          exact Nat.mod_eq_of_lt fits
        rw [addWord?, if_pos fits, ← sum]
        exact inductionHypothesis
      · rw [addWord?, if_neg fits]
        refine iff_of_false (Option.some_ne_none total).symm ?_
        have word : total.toNat < powerOf 2 64 := total.toNat_lt
        omega

private theorem toNat_max (first second : UInt64) :
    (max first second).toNat = max first.toNat second.toNat := by
  show (if first ≤ second then second else first).toNat = _
  simp only [Nat.max_def, UInt64.le_iff_toNat_le]
  split <;> rfl

theorem shareTotal?_eq_some_iff {values : List UInt64} {total : UInt64} :
    shareTotal? values = some total ↔
      sumOf (values.map UInt64.toNat) < powerOf 2 64 ∧ total.toNat = wholeTotal values := by
  have isSum (sum : UInt64) : values.foldlM addWord? 0 = some sum ↔
      sum.toNat = sumOf (values.map UInt64.toNat) := by
    rw [foldlM_addWord?_eq_some_iff, UInt64.toNat_zero, Nat.zero_add]
  rw [shareTotal?, Option.map_eq_some_iff]
  constructor
  · rintro ⟨sum, added, rfl⟩
    rw [isSum] at added
    constructor
    · rw [← added]
      exact sum.toNat_lt
    · rw [toNat_max, added]
      rfl
  · intro ⟨fits, isTotal⟩
    have word : (UInt64.ofNat (sumOf (values.map UInt64.toNat))).toNat =
        sumOf (values.map UInt64.toNat) :=
      UInt64.toNat_ofNat_of_lt' fits
    refine ⟨_, (isSum _).mpr word, ?_⟩
    apply UInt64.toNat_inj.mp
    rw [toNat_max, word, isTotal]
    rfl

theorem isSome_shareTotal?_iff {values : List UInt64} :
    (shareTotal? values).isSome = true ↔ sumOf (values.map UInt64.toNat) < powerOf 2 64 := by
  rw [Option.isSome_iff_exists]
  constructor
  · intro ⟨total, isTotal⟩
    exact (shareTotal?_eq_some_iff.mp isTotal).1
  · intro fits
    have small : wholeTotal values < powerOf 2 64 := Nat.max_lt.mpr ⟨fits, by decide⟩
    exact ⟨_, shareTotal?_eq_some_iff.mpr ⟨fits, UInt64.toNat_ofNat_of_lt' small⟩⟩

/-- The total that shares are of, as far as the sum of the counts fits its word. -/
structure SharesOfSum (values : List UInt64) : Prop where
  exact : ∀ total, shareTotal? values = some total ↔
    sumOf (values.map UInt64.toNat) < powerOf 2 64 ∧ total.toNat = wholeTotal values
  fits : (shareTotal? values).isSome = true ↔ sumOf (values.map UInt64.toNat) < powerOf 2 64
  within : ∀ total, shareTotal? values = some total → ∀ count ∈ values, count ≤ total

private theorem sharesOfSum (values : List UInt64) : SharesOfSum values where
  exact _ := shareTotal?_eq_some_iff
  fits := isSome_shareTotal?_iff
  within := by
    intro total isTotal count isCount
    have counted : count.toNat ≤ sumOf (values.map UInt64.toNat) :=
      le_sumOf_of_mem (List.mem_map_of_mem isCount)
    rw [UInt64.le_iff_toNat_le, (shareTotal?_eq_some_iff.mp isTotal).2]
    exact Nat.le_trans counted (Nat.le_max_left _ 1)

/-- Without the chart of event types there is no dashboard. -/
theorem drawDashboard?_eq_none {view : DashboardView}
    (noTypes : ∀ canvas area title, drawSlot? canvas area title view.eventsByType = none)
    (canvas : Canvas) (area : Rect) : drawDashboard? canvas area view = none := by
  unfold drawDashboard?
  dsimp only
  rw [noTypes]
  rfl

end View

namespace Dashboard

open Screen View

/-! ### Shares after any outcomes -/

/-- The slot of event types is in sight and draws shares of these counts, of their
total, and without a total there is no dashboard. -/
structure DrawsShares (view : DashboardView) (counts : SortedMap String UInt64) : Prop where
  draws : ∃ chart, view.eventsByType.visible? = some chart ∧ chart.labels = counts.keys ∧
    chart.values = counts.values ∧ ∀ canvas area title,
      drawSlot? canvas area title view.eventsByType =
        (shareTotal? counts.values).map (drawShares canvas area (panel title) chart)
  shares : SharesOfSum counts.values
  screen : powerOf 2 64 ≤ sumOf (counts.values.map UInt64.toNat) →
    ∀ canvas area, drawDashboard? canvas area view = none

private theorem draws_of_look {slot : ChartSlot} {counts : SortedMap String UInt64}
    (shows : slot.look = (ChartPlace.typesData counts).look .doughnut) :
    ∃ chart, slot.visible? = some chart ∧ chart.labels = counts.keys ∧
      chart.values = counts.values ∧ ∀ canvas area title,
        drawSlot? canvas area title slot =
          (shareTotal? counts.values).map (drawShares canvas area (panel title) chart) := by
  obtain ⟨chart, inSight, sameLook⟩ :=
    Option.map_eq_some_iff.mp (congrArg SlotLook.chart shows)
  obtain ⟨kind, labels, values, colors⟩ := ChartLook.mk.inj sameLook
  refine ⟨chart, inSight, labels, values, fun canvas area title => ?_⟩
  rw [drawSlot?, inSight]
  simp only [drawChart?, kind, values]

/-- Whatever the outcomes before were, for every snapshot with counts. -/
theorem drawsShares_finishAll (interval : Nat) (outcomes : List RefreshOutcome)
    (takenAt : Time.Instant) {stats : StatsSnapshot} {counts : SortedMap String UInt64}
    (hasCounts : stats.eventsByType = some counts) (filled : counts.isEmpty = false) :
    DrawsShares ((withInterval interval).finishAll (outcomes ++ [⟨.ok stats, takenAt⟩])).view
      counts := by
  have shows := look_finishRefresh (remembers_fromStart interval outcomes .eventsByType)
    ⟨.ok stats, takenAt⟩
  have asked : ChartPlace.asked .eventsByType (.ok stats) = ChartPlace.typesData counts := by
    show ChartPlace.contentOf stats.eventsByType ChartPlace.typesData = _
    rw [hasCounts, ChartPlace.contentOf, filled]
    rfl
  rw [asked] at shows
  rw [finishAll_concat]
  obtain ⟨chart, inSight, labels, values, draws⟩ := draws_of_look shows
  refine ⟨⟨chart, inSight, labels, values, draws⟩, sharesOfSum counts.values, fun beyond => ?_⟩
  apply drawDashboard?_eq_none
  intro canvas area title
  have noTotal : shareTotal? counts.values = none := by
    rw [← Option.not_isSome_iff_eq_none, isSome_shareTotal?_iff]
    exact Nat.not_lt_of_le beyond
  exact (draws canvas area title).trans (congrArg _ noTotal)

/-- Two counts that fill a word together. -/
def halvesRecord : Json.Value :=
  .object [("events_by_type", .object
    [("a", .number (.natural 9223372036854775808)), ("b", .number (.natural 9223372036854775808))])]

/-- Half of the word and half of it again are no total, and there is no screen. -/
theorem drawsShares_halvesRecord :
    ∃ stats counts, StatsSnapshot.ofJson? halvesRecord = some stats ∧
      stats.eventsByType = some counts ∧ counts.isEmpty = false ∧
        DrawsShares (new.finishAll [⟨.ok stats, ⟨0, 0⟩⟩]).view counts ∧
          ∀ canvas area,
            drawDashboard? canvas area (new.finishAll [⟨.ok stats, ⟨0, 0⟩⟩]).view = none := by
  obtain ⟨stats, isRead, counts, hasCounts, filled, beyond⟩ :
      ∃ stats, StatsSnapshot.ofJson? halvesRecord = some stats ∧
        ∃ counts, stats.eventsByType = some counts ∧ counts.isEmpty = false ∧
          powerOf 2 64 ≤ sumOf (counts.values.map UInt64.toNat) :=
    ⟨_, rfl, _, rfl, by decide, by decide⟩
  have drawsShares : DrawsShares (new.finishAll [⟨.ok stats, ⟨0, 0⟩⟩]).view counts :=
    drawsShares_finishAll defaultInterval [] ⟨0, 0⟩ hasCounts filled
  exact ⟨stats, counts, isRead, hasCounts, filled, drawsShares, drawsShares.screen beyond⟩

end Dashboard

end EventConsole
