import EventConsole.Natural
import EventConsole.Screen.Line

/-!
Contract: frames around panels, and lines of text in an area.

A frame has plain borders on all sides, or a rule at the bottom only, and may
carry a title on its top row. The title keeps the style of the border below it.

Lines are cut at the right edge. A unit wider than the area is left out; the first unit
that does not fit ends its line. Lines may be skipped at the top, and a line may be
centred.
-/

namespace EventConsole.Screen

/-! ### Frames -/

inductive Borders where
  | all
  | bottom
deriving DecidableEq, Repr

structure Block where
  borders : Borders
  style : Style
  title : Option String
deriving Repr

namespace Block

/-- A frame with a title. -/
def titled (title : String) (border : Style) : Block := ⟨.all, border, some title⟩

/-- The area that a frame leaves for its content. -/
def inner (block : Block) (area : Rect) : Rect :=
  match block.borders with
  | .all =>
      ⟨min (area.x + 1) area.right, min (area.y + 1) area.bottom, area.width - 2, area.height - 2⟩
  | .bottom => ⟨area.x, area.y, area.width, area.height - 1⟩

end Block

namespace Canvas

def drawRow (canvas : Canvas) (area : Rect) (y : Nat) (style : Style) : Canvas :=
  canvas.forRange area.x area.width fun canvas x => canvas.put x y ['─'] style

def drawColumn (canvas : Canvas) (area : Rect) (x : Nat) (style : Style) : Canvas :=
  canvas.forRange area.y area.height fun canvas y => canvas.put x y ['│'] style

/-- Sides first, then the corners; where they meet, the top left corner is last. -/
def drawFrame (canvas : Canvas) (area : Rect) (style : Style) : Canvas :=
  let right := area.right - 1
  let bottom := area.bottom - 1
  let canvas := canvas.drawColumn area area.x style
  let canvas := canvas.drawRow area area.y style
  let canvas := canvas.drawColumn area right style
  let canvas := canvas.drawRow area bottom style
  let canvas := canvas.put right bottom ['┘'] style
  let canvas := canvas.put right area.y ['┐'] style
  let canvas := canvas.put area.x bottom ['└'] style
  canvas.put area.x area.y ['┌'] style

def drawBlock (canvas : Canvas) (area : Rect) (block : Block) : Canvas :=
  let area := area.intersect canvas.area
  if area.isEmpty then canvas
  else
    match block.borders with
    | .bottom => canvas.drawRow area (area.bottom - 1) block.style
    | .all =>
        let canvas := canvas.drawFrame area block.style
        match block.title with
        | none => canvas
        | some title =>
            let line := Line.ofText title
            canvas.drawLine ⟨area.x + 1, area.y, min line.width (area.width - 2), 1⟩ line

end Canvas

/-! ### Paragraphs -/

/-- A displayed unit with its style. -/
structure StyledUnit where
  unit : List Char
  style : Style

def Line.styledUnits (line : Line) : List StyledUnit :=
  line.spans.flatMap fun span => span.units.map fun unit => ⟨unit, span.style⟩

/-- The units of a line that fit into `room` cells beside `used` ones. -/
def fitting (room used : Nat) : List StyledUnit → List StyledUnit
  | [] => []
  | item :: rest =>
      let width := Text.textWidth item.unit
      if room < width then fitting room used rest
      else if room < used + width then []
      else item :: fitting room (used + width) rest

def unitsWidth (items : List StyledUnit) : Nat :=
  sumOf (items.map fun item => Text.textWidth item.unit)

namespace Canvas

/-- Puts units side by side; units without width are left out. -/
def putUnits (canvas : Canvas) (x y : Nat) : List StyledUnit → Canvas
  | [] => canvas
  | item :: rest =>
      let width := Text.textWidth item.unit
      if width = 0 then canvas.putUnits x y rest
      else (canvas.put x y item.unit item.style).putUnits (x + width) y rest

/-- Draws lines from the top of an area, each put at an offset from its left edge. -/
def drawLines (canvas : Canvas) (area : Rect) (offset : Nat → Nat) (lines : List Line) : Canvas :=
  if area.isEmpty then canvas
  else
    ((lines.take area.height).foldl (fun (state : Canvas × Nat) line =>
      let items := fitting area.width 0 line.styledUnits
      (state.1.putUnits (area.x + offset (unitsWidth items)) state.2 items, state.2 + 1))
      (canvas, area.y)).1

/-- Draws lines at the left edge of an area. -/
def drawParagraph (canvas : Canvas) (area : Rect) (lines : List Line) : Canvas :=
  canvas.drawLines area (fun _ => 0) lines

/-- Draws a line in the middle of an area. -/
def drawCentered (canvas : Canvas) (area : Rect) (line : Line) : Canvas :=
  canvas.drawLines area (fun width => area.width / 2 - width / 2) [line]

/-- Draws a frame and lines inside it. -/
def drawPanel (canvas : Canvas) (area : Rect) (block : Block) (lines : List Line) : Canvas :=
  (canvas.drawBlock area block).drawParagraph (block.inner area) lines

end Canvas

end EventConsole.Screen
