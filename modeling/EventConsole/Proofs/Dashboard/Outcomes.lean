import EventConsole.Dashboard.Refresh

/-!
Contract: the dashboard shows its last outcome, and its charts are kept.

Whatever was shown before, the panels and what can be seen of the charts depend on
the last outcome and its time alone. What a slot remembers of earlier ones is its
chart, which is created with the first data and updated since.

Owns: what an outcome asks of each place for a chart, what a slot makes of it, and
over all sequences of outcomes what slots remember and what the view shows.

Does not own: when refreshes are started, and whether a chart has anything to draw
(`Dashboard.Labels`).
-/

namespace EventConsole

/-! ### Slots -/

/-- What a slot is asked to show: data, or a text in their stead. -/
inductive SlotContent where
  | data (labels : List String) (values : List UInt64) (colors : List Screen.Color)
  | notice (text : String)

/-- What can be seen of a chart. -/
structure ChartLook where
  kind : ChartKind
  labels : List String
  values : List UInt64
  colors : List Screen.Color

/-- What can be seen of a slot. -/
structure SlotLook where
  hidden : Bool
  placeholder : Option String
  chart : Option ChartLook

namespace SlotContent

def isData : SlotContent → Bool
  | .data .. => true
  | .notice _ => false

/-- There are as many values as labels. -/
def IsEven : SlotContent → Prop
  | .data labels values _ => labels.length = values.length
  | .notice _ => True

/-- What shows in a slot for charts of some kind. -/
def look (kind : ChartKind) : SlotContent → SlotLook
  | .data labels values colors => ⟨false, none, some ⟨kind, labels, values, colors⟩⟩
  | .notice text => ⟨true, some text, none⟩

end SlotContent

def Chart.look (chart : Chart) : ChartLook :=
  ⟨chart.kind, chart.labels, chart.values, chart.colors⟩

namespace ChartSlot

def look (slot : ChartSlot) : SlotLook :=
  ⟨slot.hidden, slot.placeholder, slot.visible?.map Chart.look⟩

/-- Shows what is asked for in a slot for charts of some kind. -/
def present (slot : ChartSlot) (kind : ChartKind) : SlotContent → ChartSlot
  | .data labels values colors => slot.display kind labels values colors
  | .notice text => slot.showPlaceholder text

/-- The slot remembers that it was shown some number of times: its chart is of the
one kind, was created with the first data, and counts the updates since. -/
structure Remembers (kind : ChartKind) (shown : Nat) (slot : ChartSlot) : Prop where
  created : slot.created = if shown = 0 then 0 else 1
  chart : slot.chart.isSome = true ↔ 0 < shown
  kind : ∀ chart, slot.chart = some chart → chart.kind = kind
  revision : ∀ chart, slot.chart = some chart → chart.revision + 1 = UInt64.ofNat shown
  even : ∀ chart, slot.chart = some chart → chart.labels.length = chart.values.length
  hidden : slot.hidden = true ↔ slot.placeholder.isSome = true

private theorem remembers_empty (kind : ChartKind) : Remembers kind 0 empty where
  created := rfl
  chart := by simp [empty]
  kind := by simp [empty]
  revision := by simp [empty]
  even := by simp [empty]
  hidden := by simp [empty]

section Remembers

variable {kind : ChartKind} {shown : Nat} {slot : ChartSlot}

private theorem Remembers.chart_eq_none (remembers : Remembers kind shown slot)
    (noChart : slot.chart = none) : shown = 0 := by
  refine Nat.eq_zero_of_not_pos fun positive => ?_
  have isSome := remembers.chart.mpr positive
  rw [noChart] at isSome
  contradiction

theorem Remembers.display (remembers : Remembers kind shown slot) {labels : List String}
    {values : List UInt64} (even : labels.length = values.length) (colors : List Screen.Color) :
    Remembers kind (shown + 1) (slot.display kind labels values colors) := by
  unfold ChartSlot.display
  cases before : slot.chart with
  | none =>
      obtain rfl := remembers.chart_eq_none before
      have created : slot.created = 0 := remembers.created
      exact
        { created := by simp [created]
          chart := by simp
          kind := by rintro _ ⟨⟩; rfl
          revision := by rintro _ ⟨⟩; rfl
          even := by rintro _ ⟨⟩; exact even
          hidden := by simp }
  | some chart =>
      have shownBefore : shown ≠ 0 := Nat.ne_of_gt (remembers.chart.mp (by rw [before]; rfl))
      have created := remembers.created
      rw [if_neg shownBefore] at created
      exact
        { created := by simp [created]
          chart := by simp
          kind := by rintro _ ⟨⟩; exact remembers.kind chart before
          revision := by
            rintro _ ⟨⟩
            rw [remembers.revision chart before, UInt64.ofNat_add]
            rfl
          even := by rintro _ ⟨⟩; exact even
          hidden := by simp }

/-- A placeholder leaves the chart as it was. -/
theorem Remembers.showPlaceholder (remembers : Remembers kind shown slot) (text : String) :
    Remembers kind shown (slot.showPlaceholder text) :=
  { remembers with hidden := iff_of_true rfl rfl }

theorem Remembers.present (remembers : Remembers kind shown slot) {content : SlotContent}
    (even : content.IsEven) :
    Remembers kind (shown + content.isData.toNat) (slot.present kind content) := by
  cases content with
  | data labels values colors => exact remembers.display even colors
  | notice text => exact remembers.showPlaceholder text

/-- As long as the number of updates fits its word, it is exact. -/
theorem Remembers.toNat_revision (remembers : Remembers kind shown slot)
    (fits : shown ≤ UInt64.size) {chart : Chart} (isChart : slot.chart = some chart) :
    chart.revision.toNat + 1 = shown := by
  have counted := congrArg UInt64.toNat (remembers.revision chart isChart)
  have positive : 0 < shown := remembers.chart.mp (by rw [isChart]; rfl)
  have bound := chart.revision.toNat_lt
  rw [UInt64.toNat_add, UInt64.toNat_ofNat'] at counted
  simp only [UInt64.size, UInt64.toNat_one] at fits counted
  omega

/-- Where every chart is of the one kind, nothing of the past shows. -/
theorem look_present (ofKind : ∀ chart, slot.chart = some chart → chart.kind = kind)
    (content : SlotContent) : (slot.present kind content).look = content.look kind := by
  cases content with
  | notice text => rfl
  | data labels values colors =>
      rw [present, display]
      cases before : slot.chart with
      | none => rfl
      | some chart =>
          rw [← ofKind chart before]
          rfl

end Remembers

end ChartSlot

/-! ### Places -/

/-- The places of the dashboard for charts. -/
inductive ChartPlace where
  | eventsByType
  | severity
  | processes
  | timeline
deriving DecidableEq, Repr

namespace ChartPlace

open DashboardView

def slot (view : DashboardView) : ChartPlace → ChartSlot
  | .eventsByType => view.eventsByType
  | .severity => view.severity
  | .processes => view.processes
  | .timeline => view.timeline

def kind : ChartPlace → ChartKind
  | .eventsByType => .doughnut
  | .severity => .bar
  | .processes => .horizontalBar
  | .timeline => .line

/-- A snapshot has counts for a place: its field is there, and not empty. -/
def hasCounts (stats : StatsSnapshot) : ChartPlace → Bool
  | .eventsByType => stats.eventsByType.any fun counts => !counts.isEmpty
  | .severity => stats.severityDistribution.any fun counts => !counts.isEmpty
  | .processes => stats.topProcesses.any fun counts => !counts.isEmpty
  | .timeline => stats.eventsPerHour.any fun counts => !counts.isEmpty

/-- A refresh succeeded and brought counts for a place. -/
def isFilledBy (place : ChartPlace) : Except Failure StatsSnapshot → Bool
  | .ok stats => place.hasCounts stats
  | .error _ => false

/-- Data made from a map, or a text for a missing or empty one. -/
def contentOf {κ : Type} [Ord κ] (counts : Option (SortedMap κ UInt64))
    (data : SortedMap κ UInt64 → SlotContent) : SlotContent :=
  match counts with
  | some counts => if counts.isEmpty then .notice noChartData else data counts
  | none => .notice noChartData

def typesData (counts : SortedMap String UInt64) : SlotContent :=
  .data counts.keys counts.values ((List.range counts.size).map Theme.series)

def severityData (counts : SortedMap String UInt64) : SlotContent :=
  .data ((presentSeverities counts).map fun entry => entry.1.title)
    ((presentSeverities counts).map Prod.snd)
    ((presentSeverities counts).map fun entry => Theme.severityColor entry.1)

def processesData (counts : SortedMap String UInt64) : SlotContent :=
  .data ((top counts).map Prod.fst) ((top counts).map Prod.snd) [Theme.info]

def timelineData (counts : SortedMap UInt8 UInt64) : SlotContent :=
  .data (hours.map hourLabel)
    (hours.map fun hour => (counts.get? (UInt8.ofNat hour)).getD 0) [Theme.info]

def content (stats : StatsSnapshot) : ChartPlace → SlotContent
  | .eventsByType => contentOf stats.eventsByType typesData
  | .severity => contentOf stats.severityDistribution severityData
  | .processes => contentOf stats.topProcesses processesData
  | .timeline => contentOf stats.eventsPerHour timelineData

/-- What an outcome asks of a place. -/
def asked (place : ChartPlace) : Except Failure StatsSnapshot → SlotContent
  | .ok stats => place.content stats
  | .error _ => .notice loadFailed

private theorem isData_contentOf {κ : Type} [Ord κ] (counts : Option (SortedMap κ UInt64))
    {data : SortedMap κ UInt64 → SlotContent} (isData : ∀ counts, (data counts).isData = true) :
    (contentOf counts data).isData = counts.any fun counts => !counts.isEmpty := by
  cases counts with
  | none => rfl
  | some counts =>
      rw [contentOf, Option.any_some]
      cases counts.isEmpty with
      | true => rfl
      | false => exact isData counts

private theorem isEven_contentOf {κ : Type} [Ord κ] (counts : Option (SortedMap κ UInt64))
    {data : SortedMap κ UInt64 → SlotContent} (isEven : ∀ counts, (data counts).IsEven) :
    (contentOf counts data).IsEven := by
  cases counts with
  | none => exact trivial
  | some counts =>
      rw [contentOf]
      split
      · exact trivial
      · exact isEven counts

theorem showMap_eq_present {κ : Type} [Ord κ] (slot : ChartSlot) (kind : ChartKind)
    (counts : Option (SortedMap κ UInt64)) (data : SortedMap κ UInt64 → SlotContent) :
    showMap slot counts (fun counts => slot.present kind (data counts)) =
      slot.present kind (contentOf counts data) := by
  cases counts with
  | none => rfl
  | some counts =>
      rw [showMap, contentOf]
      cases counts.isEmpty <;> rfl

variable (place : ChartPlace)

theorem isData_asked (outcome : Except Failure StatsSnapshot) :
    (place.asked outcome).isData = place.isFilledBy outcome := by
  cases outcome with
  | error failure => rfl
  | ok stats => cases place <;> exact isData_contentOf _ fun _ => rfl

private theorem isEven_asked (outcome : Except Failure StatsSnapshot) :
    (place.asked outcome).IsEven := by
  cases outcome with
  | error failure => exact trivial
  | ok stats =>
      cases place <;> refine isEven_contentOf _ fun counts => ?_
      case eventsByType => simp [typesData, SlotContent.IsEven, SortedMap.keys, SortedMap.values]
      case severity => simp [severityData, SlotContent.IsEven]
      case processes => simp [processesData, SlotContent.IsEven]
      case timeline => simp [timelineData, SlotContent.IsEven]

/-- A slot takes what the outcome asks of its place. -/
theorem slot_finishRefresh (dashboard : Dashboard) (outcome : Except Failure StatsSnapshot)
    (now : Time.Instant) :
    slot (dashboard.finishRefresh outcome now).view place =
      (slot dashboard.view place).present place.kind (place.asked outcome) := by
  cases outcome with
  | error failure => cases place <;> rfl
  | ok stats =>
      cases place with
      | eventsByType => exact showMap_eq_present _ _ stats.eventsByType typesData
      | severity => exact showMap_eq_present _ _ stats.severityDistribution severityData
      | processes => exact showMap_eq_present _ _ stats.topProcesses processesData
      | timeline => exact showMap_eq_present _ _ stats.eventsPerHour timelineData

end ChartPlace

/-! ### Sequences of outcomes -/

/-- How a refresh ended, and when that was taken in. -/
structure RefreshOutcome where
  result : Except Failure StatsSnapshot
  takenAt : Time.Instant

namespace Dashboard

/-- Takes outcomes one after another. -/
def finishAll (dashboard : Dashboard) (outcomes : List RefreshOutcome) : Dashboard :=
  outcomes.foldl (fun dashboard outcome => dashboard.finishRefresh outcome.result outcome.takenAt)
    dashboard

theorem finishAll_concat (dashboard : Dashboard) (outcomes : List RefreshOutcome)
    (last : RefreshOutcome) :
    dashboard.finishAll (outcomes ++ [last]) =
      (dashboard.finishAll outcomes).finishRefresh last.result last.takenAt :=
  List.foldl_append

/-- How many of the outcomes brought counts for a place. -/
def timesShown (outcomes : List RefreshOutcome) (place : ChartPlace) : Nat :=
  outcomes.countP fun outcome => place.isFilledBy outcome.result

theorem timesShown_cons (outcome : RefreshOutcome) (rest : List RefreshOutcome)
    (place : ChartPlace) :
    timesShown (outcome :: rest) place =
      (place.isFilledBy outcome.result).toNat + timesShown rest place := by
  rw [timesShown, List.countP_cons, Nat.add_comm]
  cases place.isFilledBy outcome.result <;> rfl

private theorem remembers_finishAll (place : ChartPlace) (outcomes : List RefreshOutcome)
    {dashboard : Dashboard} {shown : Nat}
    (start : (place.slot dashboard.view).Remembers place.kind shown) :
    (place.slot (dashboard.finishAll outcomes).view).Remembers place.kind
      (shown + timesShown outcomes place) := by
  induction outcomes generalizing dashboard shown with
  | nil => exact start
  | cons outcome rest inductionHypothesis =>
      have next := start.present (place.isEven_asked outcome.result)
      rw [← place.slot_finishRefresh dashboard outcome.result outcome.takenAt,
        place.isData_asked] at next
      rw [timesShown_cons, ← Nat.add_assoc]
      exact inductionHypothesis next

theorem remembers_fromStart (interval : Nat) (outcomes : List RefreshOutcome)
    (place : ChartPlace) :
    (place.slot ((withInterval interval).finishAll outcomes).view).Remembers place.kind
      (timesShown outcomes place) := by
  have start : (place.slot (withInterval interval).view).Remembers place.kind 0 := by
    cases place <;> exact ChartSlot.remembers_empty _
  have remembers := remembers_finishAll place outcomes start
  rwa [Nat.zero_add] at remembers

/-- Two views have the same panels, and nothing that can be seen of their charts
differs. -/
structure ShowsSame (view other : DashboardView) : Prop where
  agents : view.agents = other.agents
  logins : view.logins = other.logins
  hosts : view.hosts = other.hosts
  users : view.users = other.users
  charts : ∀ place : ChartPlace, (place.slot view).look = (place.slot other).look

theorem look_finishRefresh {dashboard : Dashboard} {place : ChartPlace} {shown : Nat}
    (remembers : (place.slot dashboard.view).Remembers place.kind shown)
    (outcome : RefreshOutcome) :
    (place.slot (dashboard.finishRefresh outcome.result outcome.takenAt).view).look =
      (place.asked outcome.result).look place.kind := by
  rw [place.slot_finishRefresh]
  exact ChartSlot.look_present remembers.kind _

/-- Two dashboards that take in the same outcome at the same time. -/
theorem showsSame_finishRefresh {dashboard other : Dashboard} {shown otherShown : ChartPlace → Nat}
    (remembers : ∀ place : ChartPlace,
      (place.slot dashboard.view).Remembers place.kind (shown place))
    (otherRemembers : ∀ place : ChartPlace,
      (place.slot other.view).Remembers place.kind (otherShown place))
    (outcome : RefreshOutcome) :
    ShowsSame (dashboard.finishRefresh outcome.result outcome.takenAt).view
      (other.finishRefresh outcome.result outcome.takenAt).view := by
  have charts (place : ChartPlace) :=
    (look_finishRefresh (remembers place) outcome).trans
      (look_finishRefresh (otherRemembers place) outcome).symm
  -- The panels are made from the outcome alone.
  obtain ⟨result, takenAt⟩ := outcome
  cases result <;> exact ⟨rfl, rfl, rfl, rfl, charts⟩

/-- After a sequence of outcomes every slot remembers how often it was shown with
data, and whatever comes last decides alone what is seen. -/
structure ShowsLastOutcome (interval : Nat) (outcomes : List RefreshOutcome) : Prop where
  slots : ∀ place : ChartPlace,
    (place.slot ((withInterval interval).finishAll outcomes).view).Remembers place.kind
      (timesShown outcomes place)
  exact : ∀ place : ChartPlace, timesShown outcomes place ≤ UInt64.size →
    ∀ chart, (place.slot ((withInterval interval).finishAll outcomes).view).chart = some chart →
      chart.revision.toNat + 1 = timesShown outcomes place
  decided : ∀ last otherInterval others,
    ShowsSame ((withInterval interval).finishAll (outcomes ++ [last])).view
      ((withInterval otherInterval).finishAll (others ++ [last])).view

/-- Whatever the outcomes are. -/
theorem showsLastOutcome_finishAll (interval : Nat) (outcomes : List RefreshOutcome) :
    ShowsLastOutcome interval outcomes where
  slots := remembers_fromStart interval outcomes
  exact := fun place fits chart isChart =>
    (remembers_fromStart interval outcomes place).toNat_revision fits isChart
  decided := by
    intro last otherInterval others
    rw [finishAll_concat, finishAll_concat]
    exact showsSame_finishRefresh (remembers_fromStart interval outcomes)
      (remembers_fromStart otherInterval others) last

end Dashboard

end EventConsole
