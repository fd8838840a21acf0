import EventConsole.Proofs.Dashboard.Labels
import EventConsole.Proofs.Dashboard.Statistics
import EventConsole.Proofs.Sorting

/-!
Contract: the top lists of the dashboard keep the largest counts.

Labels with equal counts stand in their own order, which also decides which of them
are left out where the list ends among equals.

Owns: the order of a top list, what it lists of a map and what it leaves out, and
what the chart of processes and the panel of users show of a snapshot.

Does not own: how often a chart was shown before.
-/

namespace EventConsole

namespace DashboardView

/-! ### Largest entries -/

/-- The higher count comes first, and of equal counts the smaller label. -/
def Outranks (entry other : String × UInt64) : Prop :=
  other.2 < entry.2 ∨ entry.2 = other.2 ∧ compare entry.1 other.1 = .lt

/-- A list holds the five largest entries of a map, or all of them if there are
fewer. -/
structure ListsLargest (counts : SortedMap String UInt64) (listed : List (String × UInt64)) :
    Prop where
  size : listed.length = min 5 counts.size
  distinct : (listed.map Prod.fst).Nodup
  counted : ∀ entry ∈ listed, counts.get? entry.1 = some entry.2
  ordered : listed.Pairwise Outranks
  largest : ∀ label count, counts.get? label = some count → (label, count) ∉ listed →
    ∀ entry ∈ listed, Outranks entry (label, count)

private theorem pairwise_outranks_mergeSort (counts : SortedMap String UInt64) :
    (counts.entries.mergeSort fun a b => b.2 ≤ a.2).Pairwise Outranks := by
  have trans : ∀ a b c : String × UInt64, decide (b.2 ≤ a.2) = true → decide (c.2 ≤ b.2) = true →
      decide (c.2 ≤ a.2) = true := by
    intro a b c first second
    rw [decide_eq_true_eq] at first second ⊢
    exact UInt64.le_trans second first
  have total : ∀ a b : String × UInt64, (decide (b.2 ≤ a.2) || decide (a.2 ≤ b.2)) = true := by
    intro a b
    rw [Bool.or_eq_true, decide_eq_true_eq, decide_eq_true_eq]
    exact UInt64.le_total b.2 a.2
  -- The entries of a map stand in the order of their labels, and equals stay in it.
  refine (pairwise_mergeSort_of_pairwise trans total counts.increasing).imp ?_
  intro entry other ⟨noLess, byLabel⟩
  rw [decide_eq_true_eq] at noLess byLabel
  rcases UInt64.lt_or_eq_of_le noLess with less | equal
  · exact .inl less
  · exact .inr ⟨equal.symm, byLabel (UInt64.le_of_eq equal.symm)⟩

private theorem listsLargest_top (counts : SortedMap String UInt64) :
    ListsLargest counts (top counts) where
  size := ChartPlace.length_top counts
  distinct := by
    have perm := (List.mergeSort_perm counts.entries fun a b => b.2 ≤ a.2).map Prod.fst
    exact (perm.nodup_iff.mpr counts.nodup_keys).sublist ((List.take_sublist _ _).map Prod.fst)
  counted := by
    intro entry isListed
    exact SortedMap.get?_eq_some_iff.mpr (List.mem_mergeSort.mp (List.mem_of_mem_take isListed))
  ordered := (pairwise_outranks_mergeSort counts).sublist (List.take_sublist _ _)
  largest := by
    intro label count isCounted leftOut
    refine ahead_of_not_mem_take (pairwise_outranks_mergeSort counts) ?_ leftOut
    exact List.mem_mergeSort.mpr (SortedMap.get?_eq_some_iff.mp isCounted)

-- Of six labels with equal counts the last two are left out.
example :
    top (.ofList [("g", 3), ("f", 3), ("e", 3), ("d", 3), ("c", 3), ("b", 3), ("a", 2), ("h", 9)]) =
      [("h", 9), ("b", 3), ("c", 3), ("d", 3), ("e", 3)] := by
  cbv

/-! ### What is shown -/

/-- A slot draws the largest entries as a chart. There is none to draw of an empty
map. -/
structure ChartsLargest (counts : SortedMap String UInt64) (slot : ChartSlot) : Prop where
  filled : counts.isEmpty = false → ∃ chart listed, slot.visible? = some chart ∧
    ListsLargest counts listed ∧ chart.labels = listed.map Prod.fst ∧
    chart.values = listed.map Prod.snd
  empty : counts.isEmpty = true → slot.Hides noChartData

/-- A panel has a row for each of the largest entries. There is none of an empty
map. -/
structure PanelsLargest (counts : SortedMap String UInt64) (panel : Panel UserRow) : Prop where
  filled : counts.isEmpty = false → ∃ listed, ListsLargest counts listed ∧
    panel = .items (listed.map fun entry => ⟨entry.1, entry.2⟩)
  empty : counts.isEmpty = true → panel = .placeholder noAnalysis

private theorem chartsLargest_showProcesses (slot : ChartSlot) (counts : SortedMap String UInt64) :
    ChartsLargest counts (showProcesses slot (some counts)) where
  filled := by
    intro filled
    obtain ⟨chart, inSight, labels, values⟩ := slot.exists_visible?_display .horizontalBar
      ((top counts).map Prod.fst) ((top counts).map Prod.snd) [Theme.info]
    refine ⟨chart, top counts, ?_, listsLargest_top counts, labels, values⟩
    rw [showProcesses, showMap_of_filled filled]
    exact inSight
  empty := fun empty => hides_showMap empty slot _

private theorem panelsLargest_userPanel (counts : SortedMap String UInt64) :
    PanelsLargest counts (userPanel (some counts)) where
  filled := by
    intro filled
    refine ⟨top counts, listsLargest_top counts, ?_⟩
    have someRow := ChartPlace.top_ne_nil_of_filled filled
    simp [userPanel, Panel.ofItems, someRow]
  empty := by
    intro empty
    have noEntries := List.isEmpty_iff.mp empty
    simp [userPanel, Panel.ofItems, top, noEntries]

/-- The places for processes and users show the largest counts of a snapshot. -/
structure ShowsLargest (stats : StatsSnapshot) (view : DashboardView) : Prop where
  processes : ∀ counts, stats.topProcesses = some counts → ChartsLargest counts view.processes
  users : ∀ counts, stats.topUsers = some counts → PanelsLargest counts view.users

end DashboardView

/-- Whatever the dashboard showed before. -/
theorem Dashboard.showsLargest_finishRefresh (dashboard : Dashboard) (stats : StatsSnapshot)
    (now : Time.Instant) :
    DashboardView.ShowsLargest stats (dashboard.finishRefresh (.ok stats) now).view where
  processes := by
    intro counts isGiven
    have shown := DashboardView.chartsLargest_showProcesses dashboard.view.processes counts
    rwa [← isGiven] at shown
  users := by
    intro counts isGiven
    have shown := DashboardView.panelsLargest_userPanel counts
    rwa [← isGiven] at shown

end EventConsole
