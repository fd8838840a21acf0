import EventConsole.Proofs.Dashboard.Outcomes

/-!
Contract: which charts of the dashboard have nothing to draw.

A place without counts is hidden behind a placeholder, and the chart of a place
with counts has labels. The exception are severities: when all counts are of
names that are no severity, a chart without labels is left in sight.

Owns: when the chart of a place has no labels, and over all sequences of outcomes
what is in sight at each place.
-/

namespace EventConsole

private theorem Severity.mem_all (severity : Severity) : severity ∈ Severity.all := by
  cases severity <;> decide

namespace ChartPlace

open DashboardView

/-- There are counts, but of no severity. -/
def CountsNoSeverity (counts : SortedMap String UInt64) : Prop :=
  counts.isEmpty = false ∧ ∀ severity : Severity, counts.get? severity.name = none

/-- A refresh brought such counts. -/
def BringsNoSeverity (outcome : Except Failure StatsSnapshot) : Prop :=
  ∃ stats counts, outcome = .ok stats ∧ stats.severityDistribution = some counts ∧
    CountsNoSeverity counts

/-! ### Labels -/

theorem presentSeverities_eq_nil_iff {counts : SortedMap String UInt64} :
    presentSeverities counts = [] ↔ ∀ severity : Severity, counts.get? severity.name = none := by
  rw [presentSeverities, List.filterMap_eq_nil_iff]
  constructor
  · intro none severity
    exact Option.map_eq_none_iff.mp (none severity severity.mem_all)
  · intro none severity _
    rw [none severity]
    rfl

theorem length_top (counts : SortedMap String UInt64) :
    (top counts).length = min topCount counts.size := by
  rw [top, List.length_take, List.length_mergeSort]
  rfl

section Labels

variable {counts : SortedMap String UInt64} (filled : counts.isEmpty = false)
include filled

private theorem size_pos_of_filled : 0 < counts.size := by
  refine List.length_pos_iff.mpr fun noEntries => ?_
  rw [SortedMap.isEmpty, noEntries] at filled
  contradiction

private theorem keys_ne_nil_of_filled : counts.keys ≠ [] := by
  refine List.length_pos_iff.mp ?_
  rw [SortedMap.keys, List.length_map]
  exact size_pos_of_filled filled

theorem top_ne_nil_of_filled : top counts ≠ [] := by
  refine List.length_pos_iff.mp ?_
  rw [length_top]
  exact Nat.lt_min.mpr ⟨by decide, size_pos_of_filled filled⟩

end Labels

/-- Where there are counts, the data is made from them. -/
theorem contentOf_of_filled {κ : Type} [Ord κ] {counts : Option (SortedMap κ UInt64)}
    (filled : (counts.any fun counts => !counts.isEmpty) = true)
    (data : SortedMap κ UInt64 → SlotContent) :
    ∃ given, counts = some given ∧ given.isEmpty = false ∧ contentOf counts data = data given := by
  obtain ⟨given, isGiven, notEmpty⟩ := (Option.any_eq_true _ _).mp filled
  rw [Bool.not_eq_true'] at notEmpty
  refine ⟨given, isGiven, notEmpty, ?_⟩
  rw [isGiven, contentOf, notEmpty]
  rfl

/-- A place with counts is asked for data, which has no labels exactly when the
place is that of the severities and none of them is counted. -/
theorem exists_data_of_isFilledBy {place : ChartPlace} {outcome : Except Failure StatsSnapshot}
    (filled : place.isFilledBy outcome = true) :
    ∃ labels values colors, place.asked outcome = .data labels values colors ∧
      (labels = [] ↔ place = .severity ∧ BringsNoSeverity outcome) := by
  cases outcome with
  | error failure => contradiction
  | ok stats =>
      cases place with
      | eventsByType =>
          obtain ⟨counts, _, notEmpty, isData⟩ := contentOf_of_filled filled typesData
          exact ⟨_, _, _, isData, iff_of_false (keys_ne_nil_of_filled notEmpty) (by simp)⟩
      | severity =>
          obtain ⟨counts, isGiven, notEmpty, isData⟩ := contentOf_of_filled filled severityData
          refine ⟨_, _, _, isData, ?_⟩
          rw [List.map_eq_nil_iff, presentSeverities_eq_nil_iff]
          constructor
          · intro none
            exact ⟨rfl, stats, counts, rfl, isGiven, notEmpty, none⟩
          · rintro ⟨-, _, _, ⟨⟩, isOther, -, none⟩
            rw [isGiven] at isOther
            obtain rfl := Option.some.inj isOther
            exact none
      | processes =>
          obtain ⟨counts, _, notEmpty, isData⟩ := contentOf_of_filled filled processesData
          have someLabel := top_ne_nil_of_filled notEmpty
          exact ⟨_, _, _, isData, iff_of_false (by simpa using someLabel) (by simp)⟩
      | timeline =>
          obtain ⟨counts, _, _, isData⟩ := contentOf_of_filled filled timelineData
          exact ⟨_, _, _, isData, iff_of_false (by decide) (by simp)⟩

/-- A place without counts is asked for a text, be it for want of data or of an
answer. -/
theorem exists_notice_of_not_isFilledBy {place : ChartPlace}
    {outcome : Except Failure StatsSnapshot} (unfilled : place.isFilledBy outcome = false) :
    ∃ text, place.asked outcome = .notice text := by
  rw [← isData_asked] at unfilled
  cases asked : place.asked outcome with
  | notice text => exact ⟨text, rfl⟩
  | data labels values colors =>
      rw [asked] at unfilled
      contradiction

end ChartPlace

/-! ### What is in sight -/

theorem ChartSlot.exists_visible?_display (slot : ChartSlot) (kind : ChartKind)
    (labels : List String) (values : List UInt64) (colors : List Screen.Color) :
    ∃ chart, (slot.display kind labels values colors).visible? = some chart ∧
      chart.labels = labels ∧ chart.values = values := by
  unfold display
  cases slot.chart <;> exact ⟨_, rfl, rfl, rfl⟩

private theorem ChartSlot.hidden_display (slot : ChartSlot) (kind : ChartKind)
    (labels : List String) (values : List UInt64) (colors : List Screen.Color) :
    (slot.display kind labels values colors).hidden = false ∧
      (slot.display kind labels values colors).placeholder = none := by
  unfold display
  cases slot.chart <;> exact ⟨rfl, rfl⟩

/-- With counts a chart is in sight, and it has labels unless it is of severities
that none of the counts is of. Without counts a placeholder is in its stead. -/
structure ShowsCounts (place : ChartPlace) (outcome : Except Failure StatsSnapshot)
    (slot : ChartSlot) : Prop where
  draws : place.isFilledBy outcome = true →
    slot.hidden = false ∧ slot.placeholder = none ∧
      ∃ chart, slot.visible? = some chart ∧
        (chart.labels = [] ↔ place = .severity ∧ ChartPlace.BringsNoSeverity outcome)
  hides : place.isFilledBy outcome = false →
    slot.hidden = true ∧ slot.visible? = none ∧ ∃ text, slot.placeholder = some text

private theorem showsCounts_present (place : ChartPlace) (outcome : Except Failure StatsSnapshot)
    (slot : ChartSlot) :
    ShowsCounts place outcome (slot.present place.kind (place.asked outcome)) where
  draws := by
    intro filled
    obtain ⟨labels, values, colors, isData, unlabelled⟩ :=
      ChartPlace.exists_data_of_isFilledBy filled
    rw [isData, ChartSlot.present]
    obtain ⟨chart, inSight, rfl, rfl⟩ :=
      slot.exists_visible?_display place.kind labels values colors
    obtain ⟨notHidden, noPlaceholder⟩ :=
      slot.hidden_display place.kind chart.labels chart.values colors
    exact ⟨notHidden, noPlaceholder, chart, inSight, unlabelled⟩
  hides := by
    intro unfilled
    obtain ⟨text, isNotice⟩ := ChartPlace.exists_notice_of_not_isFilledBy unfilled
    rw [isNotice]
    exact ⟨rfl, rfl, text, rfl⟩

namespace Dashboard

/-- Before the first outcome no chart is in sight at a place, and then the counts
of the last one are what is shown. -/
structure DrawsCounts (interval : Nat) (place : ChartPlace) (outcomes : List RefreshOutcome) :
    Prop where
  start : outcomes = [] →
    (place.slot ((withInterval interval).finishAll outcomes).view).visible? = none
  last : ∀ earlier last, outcomes = earlier ++ [last] →
    ShowsCounts place last.result
      (place.slot ((withInterval interval).finishAll outcomes).view)

/-- Whatever the outcomes are, at every place. -/
theorem drawsCounts_finishAll (interval : Nat) (place : ChartPlace)
    (outcomes : List RefreshOutcome) : DrawsCounts interval place outcomes where
  start := by
    rintro rfl
    cases place <;> rfl
  last := by
    rintro earlier last rfl
    rw [finishAll_concat, place.slot_finishRefresh]
    exact showsCounts_present place last.result _

/-- What a server counts whose events have no severity. -/
def unnamedSeverity : StatsSnapshot :=
  { (default : StatsSnapshot) with severityDistribution := some (SortedMap.ofList [("", 1)]) }

example :
    (ChartPlace.severity.slot
      (new.finishAll [⟨.ok unnamedSeverity, ⟨0, 0⟩⟩]).view).visible?.map Chart.labels =
        some [] := by
  decide

end Dashboard

end EventConsole
