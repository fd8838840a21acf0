import EventConsole.Text.Cells

/-!
Contract: the cells of a screen, their styles, and rectangles of them.

Coordinates count cells from the top left corner of the screen. A style names only
what it changes, so that one style can be put over another.

A canvas keeps its cells row by row. Writing outside it has no effect. A symbol
that takes more than one cell covers the cell after its own, whatever that holds.

Owns: hit-testing, the area inside a border and centred areas; colours and styles;
cells, writing symbols and styles, and what of them a reader sees.
-/

namespace EventConsole.Screen

/-! ### Rectangles -/

structure Rect where
  x : Nat
  y : Nat
  width : Nat
  height : Nat
deriving DecidableEq, Repr, Inhabited

namespace Rect

def empty : Rect := ⟨0, 0, 0, 0⟩

/-- The first column beyond the rectangle. -/
def right (area : Rect) : Nat := area.x + area.width

/-- The first row beyond the rectangle. -/
def bottom (area : Rect) : Nat := area.y + area.height

def isEmpty (area : Rect) : Bool := area.width == 0 || area.height == 0

def contains (area : Rect) (column row : Nat) : Bool :=
  area.x ≤ column && column < area.right && area.y ≤ row && row < area.bottom

/-- The area inside a border of one cell. -/
def inner (area : Rect) : Rect := ⟨area.x + 1, area.y + 1, area.width - 2, area.height - 2⟩

/-- The area inside a margin of one cell; what has no inside is empty at the origin. -/
def insideMargin (area : Rect) : Rect :=
  if area.width < 2 ∨ area.height < 2 then empty else area.inner

/-- A part of a length; more than the whole counts as the whole. -/
def percentOf (length percent : Nat) : Nat := length * min percent 100 / 100

/-- A rectangle of the given shares in the middle of an area. -/
def centered (area : Rect) (percentX percentY : Nat) : Rect :=
  let width := percentOf area.width percentX
  let height := percentOf area.height percentY
  ⟨area.x + (area.width - width) / 2, area.y + (area.height - height) / 2, width, height⟩

/-- The cells that two rectangles share. -/
def intersect (a b : Rect) : Rect :=
  let left := max a.x b.x
  let top := max a.y b.y
  ⟨left, top, min a.right b.right - left, min a.bottom b.bottom - top⟩

/-- Drops columns on the left. -/
def dropColumns (area : Rect) (count : Nat) : Rect :=
  ⟨area.x + min count area.width, area.y, area.width - count, area.height⟩

end Rect

/-! ### Styles -/

inductive Color where
  /-- The terminal's own colour. -/
  | reset
  | black
  | gray
  | cyan
  | rgb (red green blue : UInt8)
deriving DecidableEq, Repr, Inhabited

namespace Color

def hexPair (value : UInt8) : List Char :=
  let digit (n : Nat) := if n < 10 then Char.ofNat (48 + n) else Char.ofNat (55 + n)
  [digit (value.toNat / 16), digit (value.toNat % 16)]

/-- The name of a colour, or `#RRGGBB`. -/
def name : Color → String
  | .reset => "Reset"
  | .black => "Black"
  | .gray => "Gray"
  | .cyan => "Cyan"
  | .rgb red green blue =>
      String.ofList ('#' :: hexPair red ++ hexPair green ++ hexPair blue)

end Color

structure Style where
  foreground : Option Color
  background : Option Color
  bold : Bool
deriving DecidableEq, Repr, Inhabited

namespace Style

/-- The style that changes nothing. -/
def plain : Style := ⟨none, none, false⟩

def fg (color : Color) : Style := ⟨some color, none, false⟩

def bg (color : Color) : Style := ⟨none, some color, false⟩

def withBg (style : Style) (color : Color) : Style := { style with background := some color }

def strong (style : Style) : Style := { style with bold := true }

end Style

/-! ### Cells -/

structure Cell where
  symbol : List Char
  foreground : Color
  background : Color
  bold : Bool
deriving DecidableEq, Repr, Inhabited

namespace Cell

def blank : Cell := ⟨[' '], .reset, .reset, false⟩

def styled (cell : Cell) (style : Style) : Cell :=
  { cell with
    foreground := style.foreground.getD cell.foreground
    background := style.background.getD cell.background
    bold := style.bold || cell.bold }

def sameStyle (a b : Cell) : Bool :=
  a.foreground = b.foreground && a.background = b.background && a.bold = b.bold

/-- The look of an untouched cell. -/
def isPlain (cell : Cell) : Bool := cell.sameStyle blank

end Cell

structure Canvas where
  width : Nat
  height : Nat
  cells : Array Cell
deriving Inhabited

namespace Canvas

def blank (width height : Nat) : Canvas :=
  ⟨width, height, Array.replicate (width * height) Cell.blank⟩

def area (canvas : Canvas) : Rect := ⟨0, 0, canvas.width, canvas.height⟩

def cell (canvas : Canvas) (x y : Nat) : Cell :=
  if x < canvas.width ∧ y < canvas.height then
    (canvas.cells[y * canvas.width + x]?).getD Cell.blank
  else Cell.blank

def modify (canvas : Canvas) (x y : Nat) (change : Cell → Cell) : Canvas :=
  if x < canvas.width ∧ y < canvas.height then
    { canvas with cells := canvas.cells.modify (y * canvas.width + x) change }
  else canvas

/-- Writes a symbol and puts a style over that of the cell. -/
def put (canvas : Canvas) (x y : Nat) (symbol : List Char) (style : Style) : Canvas :=
  canvas.modify x y fun cell => { cell.styled style with symbol := symbol }

/-- Adds characters that take no cell of their own to a symbol. -/
def append (canvas : Canvas) (x y : Nat) (symbol : List Char) (style : Style) : Canvas :=
  canvas.modify x y fun cell => { cell.styled style with symbol := cell.symbol ++ symbol }

def clearCell (canvas : Canvas) (x y : Nat) : Canvas := canvas.modify x y fun _ => Cell.blank

/-- Does something at `count` numbers from `start` on. -/
def forRange (canvas : Canvas) (start count : Nat) (step : Canvas → Nat → Canvas) : Canvas :=
  (List.range' start count).foldl step canvas

/-- Does something at every cell of a rectangle. -/
def forCells (canvas : Canvas) (area : Rect) (step : Canvas → Nat → Nat → Canvas) : Canvas :=
  canvas.forRange area.y area.height fun canvas y =>
    canvas.forRange area.x area.width fun canvas x => step canvas x y

def setStyle (canvas : Canvas) (area : Rect) (style : Style) : Canvas :=
  canvas.forCells (area.intersect canvas.area) fun canvas x y =>
    canvas.modify x y (·.styled style)

/-- Makes the cells of a rectangle blank. -/
def clear (canvas : Canvas) (area : Rect) : Canvas :=
  canvas.forCells (area.intersect canvas.area) fun canvas x y => canvas.clearCell x y

/-- Blanks every cell that a wide symbol before it covers. -/
def uncovered (covered : Bool) : List Cell → List Cell
  | [] => []
  | cell :: rest =>
      (if covered then Cell.blank else cell) :: uncovered (1 < Text.textWidth cell.symbol) rest

/-- The cells as a reader sees them. -/
def seen (canvas : Canvas) : Canvas :=
  { canvas with cells := (uncovered false canvas.cells.toList).toArray }

/-- The cells of a row. -/
def rowCells (canvas : Canvas) (y : Nat) : List Cell :=
  (List.range canvas.width).map fun x => canvas.cell x y

/-- The symbols of a row, one after another. -/
def rowText (canvas : Canvas) (y : Nat) : String :=
  String.ofList ((canvas.rowCells y).flatMap Cell.symbol)

/-- The text of every row. -/
def rows (canvas : Canvas) : List String :=
  let seen := canvas.seen
  (List.range canvas.height).map seen.rowText

/-- Adjacent cells of one style. -/
structure StyleRun where
  row : Nat
  column : Nat
  length : Nat
  cell : Cell
deriving Repr

/-- Runs of a row from a column on, extending the run that is open. -/
def runsFrom (row column : Nat) (current : StyleRun) : List Cell → List StyleRun
  | [] => [current]
  | cell :: rest =>
      if cell.sameStyle current.cell then
        runsFrom row (column + 1) { current with length := current.length + 1 } rest
      else current :: runsFrom row (column + 1) ⟨row, column, 1, cell⟩ rest

def rowRuns (canvas : Canvas) (row : Nat) : List StyleRun :=
  match canvas.rowCells row with
  | [] => []
  | cell :: rest => runsFrom row 1 ⟨row, 0, 1, cell⟩ rest

/-- All runs whose style is not that of an untouched cell. -/
def styleRuns (canvas : Canvas) : List StyleRun :=
  let seen := canvas.seen
  ((List.range canvas.height).flatMap seen.rowRuns).filter fun run => !run.cell.isPlain

end Canvas

end EventConsole.Screen
