import EventConsole.Natural
import EventConsole.Screen.Canvas
import EventConsole.Text.Cells

/-!
Contract: styled text on one row.

A span is text of one style, a line is a row of spans. Text goes onto a canvas
unit by unit; a unit of two cells writes its symbol into the first.

Owns: three ways of placing text, which differ at the right edge and in the
treatment of units that take no cell:
- `write` stays within a number of cells and drops such units;
- `drawSpans` stays within an area and joins such units to the cell before;
- the row composition of paragraphs, which belongs to that module.
-/

namespace EventConsole.Screen

structure Span where
  text : List Char
  style : Style
deriving DecidableEq, Repr

namespace Span

def plain (text : String) : Span := ⟨text.toList, Style.plain⟩

def styled (text : String) (style : Style) : Span := ⟨text.toList, style⟩

def width (span : Span) : Nat := Text.textWidth span.text

/-- The displayed units of a span; a line break is none. -/
def units (span : Span) : List (List Char) :=
  (Text.units span.text).filter (fun unit => unit ≠ ['\n'])

end Span

structure Line where
  spans : List Span
deriving DecidableEq, Repr

inductive Alignment where
  | left
  | center
  | right
deriving DecidableEq, Repr

/-- The part of a length that lies before an aligned text. -/
def Alignment.before : Alignment → Nat → Nat
  | .left, _ => 0
  | .center, length => length / 2
  | .right, length => length

/-- Splits text at line breaks. A break at the end starts no further line, and a
carriage return belongs to the break behind it. -/
def splitLines (text : List Char) : List (List Char) :=
  let rec go (current : List Char) : List Char → List (List Char)
    | [] => if current.isEmpty then [] else [current.reverse]
    | c :: rest => if c = '\n' then stripReturn current :: go [] rest else go (c :: current) rest
  go [] text
where
  /-- Turns a collected line round, without a carriage return at its end. -/
  stripReturn : List Char → List Char
    | '\r' :: rest => rest.reverse
    | current => current.reverse

namespace Line

def ofSpan (span : Span) : Line := ⟨[span]⟩

/-- A line of unstyled text. Line breaks are left out. -/
def ofText (text : String) : Line :=
  ⟨(splitLines text.toList).map fun part => ⟨part, Style.plain⟩⟩

def width (line : Line) : Nat := sumOf (line.spans.map Span.width)

end Line

/-- The lines of a text that may hold line breaks. -/
def linesOfText (text : String) : List Line :=
  (splitLines text.toList).map fun part => ⟨[⟨part, Style.plain⟩]⟩

namespace Canvas

def isControl (c : Char) : Bool := c.toNat < 0x20 || (0x7F ≤ c.toNat && c.toNat < 0xA0)

/-- Blanks the cells that a wide unit covers beside its first. -/
def clearCovered (canvas : Canvas) (x y width : Nat) : Canvas :=
  canvas.forRange (x + 1) (width - 1) fun canvas hidden => canvas.clearCell hidden y

/-- Writes units from a column on while they fit; gives the column after the last. -/
def writeUnits (canvas : Canvas) (x y room : Nat) (style : Style) :
    List (List Char) → Canvas × Nat
  | [] => (canvas, x)
  | unit :: rest =>
      let width := Text.textWidth unit
      if unit.any isControl || width == 0 then canvas.writeUnits x y room style rest
      else if room < width then (canvas, x)
      else
        ((canvas.put x y unit style).clearCovered x y width).writeUnits (x + width) y
          (room - width) style rest

/-- Writes text into at most `room` cells; gives the column after it. -/
def write (canvas : Canvas) (x y : Nat) (text : List Char) (room : Nat) (style : Style) :
    Canvas × Nat :=
  canvas.writeUnits x y (min room (canvas.width - x)) style (Text.units text)

/-- Writes a line into at most `room` cells. -/
def writeLine (canvas : Canvas) (x y : Nat) (line : Line) (room : Nat) : Canvas :=
  (line.spans.foldl (fun (state : Canvas × Nat × Nat) span =>
    let (canvas, column, left) := state
    if left = 0 then state
    else
      let (written, next) := canvas.write column y span.text left span.style
      (written, next, left - (next - column))) (canvas, x, room)).1

/-- Draws the units of one span; units without width join the cell before. -/
def drawUnits (canvas : Canvas) (start right y : Nat) (style : Style) (x : Nat) (first : Bool) :
    List (List Char) → Canvas
  | [] => canvas
  | unit :: rest =>
      let width := Text.textWidth unit
      if right < x + width then canvas
      else
        let canvas :=
          if first then canvas.put x y unit style
          else if x = start then canvas.append x y unit style
          else if width = 0 then canvas.append (x - 1) y unit style
          else canvas.put x y unit style
        (canvas.clearCovered x y width).drawUnits start right y style (x + width) false rest

/-- Draws spans one after another into the first row of an area. -/
def drawSpans (canvas : Canvas) (area : Rect) : List Span → Canvas
  | [] => canvas
  | span :: rest =>
      let shown := area.intersect canvas.area
      if span.width = 0 then canvas.drawSpans area rest
      else if shown.isEmpty then canvas
      else
        (canvas.drawUnits shown.x shown.right shown.y span.style shown.x true span.units).drawSpans
          (area.dropColumns span.width) rest

/-- Draws a line into the first row of an area. Spans without width are left out. -/
def drawLine (canvas : Canvas) (area : Rect) (line : Line) : Canvas :=
  let shown := area.intersect canvas.area
  if shown.isEmpty then canvas else canvas.drawSpans { shown with height := 1 } line.spans

/-- Draws a single span into the first row of an area. What is left of the row,
or of the text where the row is too short for it, is shared out by the alignment. -/
def drawAligned (canvas : Canvas) (area : Rect) (alignment : Alignment) (span : Span) : Canvas :=
  let shown := area.intersect canvas.area
  let hidden := span.width - shown.width
  if shown.isEmpty then canvas
  else if hidden = 0 then
    let indent := alignment.before (shown.width - span.width)
    canvas.drawSpans ({ shown with height := 1 }.dropColumns indent) [span]
  else
    let room := span.width - alignment.before hidden
    let units := Text.lastUnits room (Text.units span.text)
    let indent := room - sumOf (units.map Text.textWidth)
    canvas.drawSpans ({ shown with height := 1 }.dropColumns indent)
      [{ span with text := units.flatten }]

end Canvas

end EventConsole.Screen
