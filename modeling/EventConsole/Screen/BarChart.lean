import EventConsole.Screen.Paragraph

/-!
Contract: bar charts.

A bar is measured in eighths of a cell, in proportion to the greatest value.
Upright bars stand on their labels and show their value in the lowest cell;
lying bars have the label on their left and the value over their start. Lengths
are computed in 64-bit words before anything is drawn, and one that does not fit fails
the drawing.
-/

namespace EventConsole.Screen

structure Bar where
  label : Line
  value : UInt64
  style : Style
  valueStyle : Style
deriving Repr

structure BarChart where
  block : Block
  bars : List Bar
  /-- Cells of a bar across its length. -/
  thickness : Nat
deriving Repr

namespace BarChart

/-- Empty cells between two bars. -/
def gap : Nat := 1

/-- The greatest value, but never zero. -/
def maximum (chart : BarChart) : UInt64 :=
  max (chart.bars.foldl (fun greatest bar => max greatest bar.value) 0) 1

/-- The bars that fit side by side into `room` cells. -/
def visible (chart : BarChart) (room : Nat) : List Bar :=
  let count := chart.bars.length
  let needed := count * chart.thickness + (count - 1) * gap
  if needed < room then chart.bars
  else chart.bars.take ((room + gap) / (chart.thickness + gap))

/-- Length of a bar in eighths of a cell, when the longest takes `length` cells. -/
def eighths? (chart : BarChart) (length : Nat) (bar : Bar) : Option UInt64 :=
  if bar.value.toNat * length * 8 < powerOf 2 64 then
    some (bar.value * UInt64.ofNat length * 8 / chart.maximum)
  else none

/-- The bars that fit into `room` cells, with their lengths. -/
def lengths? (chart : BarChart) (room length : Nat) : Option (List (Bar × UInt64)) :=
  (chart.visible room).mapM fun bar => (chart.eighths? length bar).map (bar, ·)

/-- The block character that fills some eighths of a cell from below. -/
def fill (eighths : Nat) : Char :=
  match eighths with
  | 0 => ' '
  | 1 => '▁'
  | 2 => '▂'
  | 3 => '▃'
  | 4 => '▄'
  | 5 => '▅'
  | 6 => '▆'
  | 7 => '▇'
  | _ => '█'

def valueText (bar : Bar) : List Char := Nat.toDigits 10 bar.value.toNat

end BarChart

namespace Canvas

open BarChart

/-- One upright bar whose lowest cell is just above `bottom`. -/
def drawUpright (canvas : Canvas) (x bottom height thickness eighths : Nat) (style : Style) :
    Canvas :=
  canvas.forRange 0 height fun canvas level =>
    canvas.forRange x thickness fun canvas column =>
      canvas.put column (bottom - 1 - level) [fill (eighths - 8 * level)] style

/-- The label of an upright bar, centred below it and cut to its thickness. -/
def drawUprightLabel (canvas : Canvas) (x y thickness : Nat) (label : Line) : Canvas :=
  let width := min label.width thickness
  if width = 0 then canvas
  else canvas.drawLine ⟨x + (thickness - width) / 2, y, width, 1⟩ label

/-- The value of an upright bar; one as wide as the bar needs a full cell below it. -/
def drawUprightValue (canvas : Canvas) (x y thickness eighths : Nat) (bar : Bar) : Canvas :=
  let text := valueText bar
  let width := text.length
  if bar.value ≠ 0 ∧ (width < thickness ∨ (width = thickness ∧ 8 ≤ eighths)) then
    (canvas.write (x + (thickness - width) / 2) y text canvas.width bar.valueStyle).1
  else canvas

def drawUprightBars? (canvas : Canvas) (area : Rect) (chart : BarChart) : Option Canvas := do
  let labelRows := if area.height = 1 ∨ chart.bars.isEmpty then 0 else 1
  let height := area.height - labelRows
  let bottom := area.y + height
  let step := chart.thickness + gap
  let bars := (← chart.lengths? area.width height).zipIdx
  let canvas := bars.foldl (fun canvas ((bar, eighths), i) =>
    canvas.drawUpright (area.x + i * step) bottom height chart.thickness eighths.toNat bar.style)
    canvas
  return bars.foldl (fun canvas ((bar, eighths), i) =>
    let x := area.x + i * step
    let canvas :=
      if labelRows = 1 then canvas.drawUprightLabel x bottom chart.thickness bar.label
      else canvas
    canvas.drawUprightValue x (bottom - 1) chart.thickness eighths.toNat bar) canvas

/-- The value of a lying bar: over the bar in one style, beyond it in the other. -/
def drawLyingValue (canvas : Canvas) (area : Rect) (length : Nat) (bar : Bar) : Canvas :=
  let text := valueText bar
  let canvas := (canvas.write area.x area.y (text.take length) length bar.valueStyle).1
  if length < text.length then
    (canvas.write (area.x + length) area.y (text.drop length) (area.width - length) bar.style).1
  else canvas

def drawLyingBar (canvas : Canvas) (area : Rect) (labelX labelWidth length : Nat) (bar : Bar) :
    Canvas :=
  let canvas := canvas.forRange 0 area.width fun canvas column =>
    canvas.put (area.x + column) area.y [if column < length then '█' else ' '] bar.style
  let canvas := canvas.writeLine labelX area.y bar.label labelWidth
  canvas.drawLyingValue area length bar

def drawLyingBars? (canvas : Canvas) (area : Rect) (chart : BarChart) : Option Canvas := do
  let labelWidth := (chart.bars.map fun bar => bar.label.width).foldl max 0
  let margin := if labelWidth = 0 then 0 else 1
  let x := area.x + labelWidth + margin
  let width := area.width - labelWidth - margin
  let step := chart.thickness + gap
  let bars := (← chart.lengths? area.height width).zipIdx
  return bars.foldl (fun canvas ((bar, eighths), i) =>
    canvas.drawLyingBar ⟨x, area.y + i * step, width, 1⟩ area.x labelWidth (eighths / 8).toNat bar)
    canvas

/-- Draws a framed chart of upright or lying bars, unless a length is too great. -/
def drawBarChart? (canvas : Canvas) (area : Rect) (chart : BarChart) (upright : Bool) :
    Option Canvas :=
  let canvas := canvas.drawBlock area chart.block
  let body := chart.block.inner area
  if body.isEmpty || chart.thickness = 0 then some canvas
  else if upright then canvas.drawUprightBars? body chart
  else canvas.drawLyingBars? body chart

end Canvas

end EventConsole.Screen
