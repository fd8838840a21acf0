import EventConsole.Screen.Canvas

/-!
Contract: one chart position of the dashboard.

A slot creates its chart with the first data and updates it in place afterwards.
A placeholder hides the chart and keeps it.
-/

namespace EventConsole

inductive ChartKind where
  | doughnut
  | bar
  | horizontalBar
  | line
deriving DecidableEq, Repr

structure Chart where
  kind : ChartKind
  labels : List String
  values : List UInt64
  colors : List Screen.Color
  /-- Number of updates since the chart was created. -/
  revision : UInt64
deriving DecidableEq, Repr

structure ChartSlot where
  chart : Option Chart
  hidden : Bool
  placeholder : Option String
  /-- Number of charts created in this slot. -/
  created : UInt32
deriving DecidableEq, Repr, Inhabited

namespace ChartSlot

def empty : ChartSlot := ⟨none, false, none, 0⟩

/-- Shows data. The kind counts only when the chart is created. -/
def display (slot : ChartSlot) (kind : ChartKind) (labels : List String) (values : List UInt64)
    (colors : List Screen.Color) : ChartSlot :=
  match slot.chart with
  | some chart =>
      { slot with
        chart := some ⟨chart.kind, labels, values, colors, chart.revision + 1⟩
        hidden := false
        placeholder := none }
  | none =>
      { chart := some ⟨kind, labels, values, colors, 0⟩
        hidden := false
        placeholder := none
        created := slot.created + 1 }

def showPlaceholder (slot : ChartSlot) (text : String) : ChartSlot :=
  { slot with hidden := true, placeholder := some text }

/-- The chart to draw. -/
def visible? (slot : ChartSlot) : Option Chart := if slot.hidden then none else slot.chart

end ChartSlot

end EventConsole
