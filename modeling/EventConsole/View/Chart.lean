import EventConsole.Dashboard.ChartSlot
import EventConsole.Screen.BarChart
import EventConsole.Screen.LineChart
import EventConsole.Text.Cells
import EventConsole.View.Panel

/-!
Contract: the charts of the dashboard.

A slot without a visible chart shows its placeholder in the middle. Shares of a
whole are rows of blocks with the count and the percentage behind them.

Sums of counts, lengths of bars and numbers of labels are words. A drawing fails where a
sum or a product is beyond its word, or where nothing is left of a number that is
divided by.
-/

namespace EventConsole.View

open Screen

/-- The colour of a label; the colours start again when they are used up. -/
def chartColor (chart : Chart) (index : Nat) : Color :=
  (chart.colors[index % chart.colors.length]?).getD Theme.info

/-- Labels with their values, numbered. -/
def chartEntries (chart : Chart) : List ((String × UInt64) × Nat) :=
  (chart.labels.zip chart.values).zipIdx

def truncated (text : String) (limit : Nat) : List Char := Text.truncateEnd text.toList limit

/-! ### Bars -/

/-- Cells of a label below an upright bar, and of the bar. The width is divided by the
number of labels in a 16-bit word. -/
def uprightWidth? (chart : Chart) (width : Nat) : Option Nat :=
  let count := max chart.labels.length 1 % powerOf 2 16
  if count = 0 then none else some (min 12 (max 3 (width / count - 1)))

/-- Cells of a label left of a lying bar. -/
def lyingWidth : Nat := 14

def barOf (chart : Chart) (labelWidth : Nat) (entry : (String × UInt64) × Nat) : Bar :=
  let color := chartColor chart entry.2
  { label := Line.ofText (String.ofList (truncated entry.1.1 labelWidth))
    value := entry.1.2
    style := Style.fg color
    valueStyle := ((Style.fg .black).withBg color).strong }

def drawBars? (canvas : Canvas) (area : Rect) (block : Block) (chart : Chart) (upright : Bool)
    (labelWidth : Nat) : Option Canvas :=
  canvas.drawBarChart? area
    { block := block
      bars := (chartEntries chart).map (barOf chart labelWidth)
      thickness := if upright then labelWidth else 1 }
    upright

/-! ### Shares -/

def shareLabelWidth : Nat := 20

/-- One value more in a sum, if the sum fits a 64-bit word then. -/
def addWord? (sum value : UInt64) : Option UInt64 :=
  if sum.toNat + value.toNat < powerOf 2 64 then some (sum + value) else none

/-- Sum of the values in a 64-bit word, but never zero. There is none beyond the
word. -/
def shareTotal? (values : List UInt64) : Option UInt64 := (values.foldlM addWord? 0).map (max · 1)

/-- Value over total. -/
def shareOf (value total : UInt64) : Binary64 :=
  (Binary64.ofNat value.toNat).div (Binary64.ofNat total.toNat)

/-- Cells of a bar for a share. -/
def shareCells (share : Binary64) (width : Nat) : Nat :=
  min (share.mul (Binary64.ofNat width)).roundHalfUp width

def percentText (share : Binary64) : List Char :=
  Nat.toDigits 10 (share.mul (Binary64.ofNat 100)).roundHalfEven

def shareLine (chart : Chart) (total : UInt64) (width : Nat) (entry : (String × UInt64) × Nat) :
    Line :=
  let ((label, value), index) := entry
  let share := shareOf value total
  let filled := shareCells share width
  let style := Style.fg (chartColor chart index)
  let room := shareLabelWidth - 2
  ⟨[⟨['●', ' '], style⟩,
    ⟨Text.padRight room (truncated label room), Style.plain⟩,
    ⟨List.replicate filled '█', style⟩,
    ⟨List.replicate (width - filled) ' ', Style.plain⟩,
    ⟨' ' :: Text.padLeft 5 (Nat.toDigits 10 value.toNat) ++
      ' ' :: Text.padLeft 3 (percentText share) ++ ['%'], Style.fg Theme.muted⟩]⟩

def drawShares (canvas : Canvas) (area : Rect) (block : Block) (chart : Chart) (total : UInt64) :
    Canvas :=
  let width := max (area.inner.width - (shareLabelWidth + 12)) 1
  canvas.drawPanel area block ((chartEntries chart).map (shareLine chart total width))

/-! ### Line -/

/-- Every sixth label, and the last one. -/
def levelLabels (labels : List String) : List String :=
  ((labels.zipIdx.filter fun entry => entry.2 % 6 == 0).map Prod.fst) ++ labels.getLast?.toList

def wholeText (x : Binary64) : String := toString x.roundHalfEven

def drawValues (canvas : Canvas) (area : Rect) (block : Block) (chart : Chart) : Canvas :=
  let top := Binary64.ofNat (max (chart.values.foldl max 0) 1).toNat
  canvas.drawLineChart area
    { block := block
      values := chart.values
      style := Style.fg (chartColor chart 0)
      levelLabels := (levelLabels chart.labels).map mutedSpan
      uprightLabels :=
        [Span.plain "0", Span.plain (wholeText (top.div (Binary64.ofNat 2))),
          Span.plain (wholeText top)]
      top := top }

/-! ### Slots -/

def drawPlaceholder (canvas : Canvas) (area : Rect) (block : Block) (text : String) : Canvas :=
  let canvas := canvas.drawBlock area block
  let body := area.inner
  if body.height = 0 then canvas
  else
    canvas.drawCentered { body with y := body.y + body.height / 2, height := 1 }
      (Line.ofSpan (mutedSpan text))

/-- Draws a chart by its kind, unless its counts or labels are too many. -/
def drawChart? (canvas : Canvas) (area : Rect) (block : Block) (chart : Chart) : Option Canvas :=
  match chart.kind with
  | .line => some (drawValues canvas area block chart)
  | .bar => (uprightWidth? chart area.inner.width).bind (drawBars? canvas area block chart true)
  | .horizontalBar => drawBars? canvas area block chart false lyingWidth
  | .doughnut => (shareTotal? chart.values).map (drawShares canvas area block chart)

def drawSlot? (canvas : Canvas) (area : Rect) (title : String) (slot : ChartSlot) :
    Option Canvas :=
  let block := panel title
  match slot.visible? with
  | none => some (drawPlaceholder canvas area block (slot.placeholder.getD "Loading..."))
  | some chart => drawChart? canvas area block chart

end EventConsole.View
