import EventConsole.Binary64.Basic
import EventConsole.Screen.Paragraph

/-!
Contract: a line chart drawn with Braille dots.

Every cell of the graph holds two by four dots. Values are joined in order by
straight lines of dots. Labels stand left of the upright axis and below the
level one; labels take at most a third of the width on the left.

Owns: mapping values to dots, lines of dots, the place of axes and labels.
-/

namespace EventConsole.Screen

structure LineChart where
  block : Block
  values : List UInt64
  style : Style
  levelLabels : List Span
  uprightLabels : List Span
  /-- Value at the top of the graph. -/
  top : Binary64
deriving Repr

namespace LineChart

/-! ### Dots -/

abbrev Dot := Nat × Nat

/-- Part of a number of steps, rounded down to a dot. -/
def scaled (value steps span : Binary64) : Nat := ((value.mul steps).div span).floor

/-- The dot of the value with a number, on a grid of dots. -/
def dotOf (chart : LineChart) (columns rows : Nat) (index : Nat) (value : UInt64) : Dot :=
  let span := Binary64.ofNat (max (chart.values.length - 1) 1)
  let height := chart.top.sub (Binary64.ofNat value.toNat)
  (scaled (Binary64.ofNat index) (Binary64.ofNat (columns - 1)) span,
    scaled height (Binary64.ofNat (rows - 1)) chart.top)

/-- Dots of a line that advances along one coordinate: each step moves on by
one, and the other coordinate follows when the error is positive. -/
def advance (up : Bool) (long short : Int) : Nat → Nat → Nat → Int → List Dot
  | 0, a, b, _ => [(a, b)]
  | steps + 1, a, b, error =>
      let moved := 0 < error
      let next := if moved then (if up then b + 1 else b - 1) else b
      let error := (if moved then error - 2 * long else error) + 2 * short
      (a, b) :: advance up long short steps (a + 1) next error

/-- Dots from `(a, b)` to `(c, d)` where `a ≤ c` and the first coordinate is the longer way. -/
def slanted (a b c d : Nat) : List Dot :=
  let long : Int := (c : Int) - a
  let short : Int := ((d : Int) - b).natAbs
  advance (b ≤ d) long short (c - a) a b (2 * short - long)

def swap (dot : Dot) : Dot := (dot.2, dot.1)

/-- All whole numbers between two, both included. -/
def between (a b : Nat) : List Nat := List.range' (min a b) (max a b - min a b + 1)

/-- Dots of the straight line between two dots. -/
def segment (a b : Dot) : List Dot :=
  let dx := max a.1 b.1 - min a.1 b.1
  let dy := max a.2 b.2 - min a.2 b.2
  if dx = 0 then (between a.2 b.2).map fun y => (a.1, y)
  else if dy = 0 then (between a.1 b.1).map fun x => (x, a.2)
  else if dy < dx then
    if b.1 < a.1 then slanted b.1 b.2 a.1 a.2 else slanted a.1 a.2 b.1 b.2
  else if b.2 < a.2 then (slanted b.2 b.1 a.2 a.1).map swap
  else (slanted a.2 a.1 b.2 b.1).map swap

/-- Dots of the values themselves, and of the lines that join neighbours. -/
def dots (chart : LineChart) (columns rows : Nat) : List Dot :=
  let marks := chart.values.zipIdx.map fun (value, i) => chart.dotOf columns rows i value
  marks ++ (marks.zip (marks.drop 1)).flatMap fun (a, b) => segment a b

/-- The bit of a dot inside its Braille cell. -/
def dotBit (x y : Nat) : Nat :=
  match x % 2, y % 4 with
  | 0, 0 => 0x01
  | 0, 1 => 0x02
  | 0, 2 => 0x04
  | 0, _ => 0x40
  | _, 0 => 0x08
  | _, 1 => 0x10
  | _, 2 => 0x20
  | _, _ => 0x80

/-- The dots of every cell of a graph, row by row. -/
def cellMasks (width height : Nat) (found : List Dot) : Array Nat :=
  found.foldl (fun masks (x, y) =>
    masks.modify (y / 4 * width + x / 2) (· ||| dotBit x y)) (Array.replicate (width * height) 0)

/-! ### Places -/

structure Places where
  /-- Row of the labels below the level axis. -/
  levelLabelRow : Option Nat
  levelAxisRow : Option Nat
  uprightAxisColumn : Option Nat
  graph : Rect
deriving Repr

/-- Cells left of the upright axis. -/
def leftMargin (chart : LineChart) (width : Nat) : Nat :=
  let upright := (chart.uprightLabels.map Span.width).foldl max 0
  let level :=
    match chart.levelLabels.head? with
    | none => 0
    | some label => label.width - (if chart.uprightLabels.isEmpty then 0 else 1)
  min (max upright level) (width / 3)

def places? (chart : LineChart) (area : Rect) : Option Places :=
  if area.isEmpty then none
  else
    let x := area.x
    let y := area.bottom - 1
    let hasLevel := !chart.levelLabels.isEmpty
    let labelRow := if hasLevel && area.y < y then some y else none
    let y := if labelRow.isSome then y - 1 else y
    let x := x + chart.leftMargin area.width
    let axisRow := if hasLevel && area.y < y then some y else none
    let y := if axisRow.isSome then y - 1 else y
    let hasUpright := !chart.uprightLabels.isEmpty
    let axisColumn := if hasUpright && x + 1 < area.right then some x else none
    let x := if axisColumn.isSome then x + 1 else x
    let width := area.right - x
    if width = 0 then none
    else some ⟨labelRow, axisRow, axisColumn, ⟨x, area.y, width, y - area.y + 1⟩⟩

end LineChart

namespace Canvas

open LineChart

/-- Labels below the level axis: the first ends at the upright axis, the last at
the right edge, the others stand in the middle of their stretch. -/
def drawLevelLabels (canvas : Canvas) (area graph : Rect) (y : Nat) (labels : List Span) :
    Canvas :=
  let count := labels.length
  if count < 2 then canvas
  else
    let stretch := graph.width / count
    labels.zipIdx.foldl (fun canvas (label, i) =>
      if i = 0 then canvas.drawAligned ⟨area.x, y, graph.x - area.x, 1⟩ .right label
      else if i + 1 = count then
        canvas.drawAligned ⟨graph.right - stretch, y, stretch, 1⟩ .right label
      else
        canvas.drawAligned ⟨graph.x + i * stretch + 1, y, stretch - 1, 1⟩ .center label) canvas

/-- Labels left of the upright axis, from the bottom up at equal distances. -/
def drawUprightLabels (canvas : Canvas) (area graph : Rect) (labels : List Span) : Canvas :=
  labels.zipIdx.foldl (fun canvas (label, i) =>
    let rise := i * (graph.height - 1) / (labels.length - 1)
    let place : Rect := ⟨area.x, graph.bottom - 1 - rise, graph.x - area.x - 1, 1⟩
    canvas.drawAligned place .left label) canvas

def drawAxes (canvas : Canvas) (places : Places) : Canvas :=
  let graph := places.graph
  let canvas :=
    match places.levelAxisRow with
    | none => canvas
    | some y => canvas.forRange graph.x graph.width fun canvas x =>
        canvas.put x y ['─'] Style.plain
  let canvas :=
    match places.uprightAxisColumn with
    | none => canvas
    | some x => canvas.forRange graph.y graph.height fun canvas y =>
        canvas.put x y ['│'] Style.plain
  match places.levelAxisRow, places.uprightAxisColumn with
  | some y, some x => canvas.put x y ['└'] Style.plain
  | _, _ => canvas

def drawDots (canvas : Canvas) (graph : Rect) (chart : LineChart) : Canvas :=
  let masks := cellMasks graph.width graph.height
    (chart.dots (graph.width * 2) (graph.height * 4))
  canvas.forCells graph fun canvas x y =>
    let mask := (masks[(y - graph.y) * graph.width + (x - graph.x)]?).getD 0
    if mask = 0 then canvas else canvas.put x y [Char.ofNat (0x2800 + mask)] chart.style

def drawLineChart (canvas : Canvas) (area : Rect) (chart : LineChart) : Canvas :=
  let canvas := canvas.drawBlock area chart.block
  let body := chart.block.inner area
  match chart.places? body with
  | none => canvas
  | some places =>
      let canvas :=
        match places.levelLabelRow with
        | none => canvas
        | some y => canvas.drawLevelLabels body places.graph y chart.levelLabels
      let canvas := canvas.drawUprightLabels body places.graph chart.uprightLabels
      (canvas.drawAxes places).drawDots places.graph chart

end Canvas

end EventConsole.Screen
