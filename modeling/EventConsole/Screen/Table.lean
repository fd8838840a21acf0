import EventConsole.Screen.Layout
import EventConsole.Screen.Paragraph

/-!
Contract: tables with a header row and a selected row.

Every row takes one line. The rows shown start at the scroll offset, which moves
only as far as the selected row needs. The selected row carries a mark in a
column of its own and a style over its cells.
-/

namespace EventConsole.Screen

structure TableCell where
  line : Line
  style : Style
deriving Repr

namespace TableCell

/-- A cell shows the first line of its text. -/
def ofText (text : String) (style : Style) : TableCell :=
  match linesOfText text with
  | [] => ⟨⟨[]⟩, style⟩
  | line :: _ => ⟨line, style⟩

end TableCell

/-- What a table remembers between two drawings. -/
structure TableView where
  selected : Option Nat
  offset : Nat
deriving DecidableEq, Repr, Inhabited

namespace TableView

def initial : TableView := ⟨none, 0⟩

/-- Selecting nothing scrolls back to the top. -/
def select (view : TableView) : Option Nat → TableView
  | none => ⟨none, 0⟩
  | some row => { view with selected := some row }

end TableView

structure Table where
  header : List TableCell
  headerStyle : Style
  rows : List (List TableCell)
  sizes : List Layout.Size
  block : Block
  mark : String
  markStyle : Style

namespace Table

/-- The first row shown: at the offset, or as near to it as the selected row allows. -/
def firstRow (count offset height : Nat) (selected : Option Nat) : Nat :=
  let offset := min offset (count - 1)
  match selected with
  | none => offset
  | some row =>
      let row := min row (count - 1)
      if row < offset then row
      else if offset + height ≤ row then row + 1 - max height 1
      else offset

end Table

namespace Canvas

def drawCell (canvas : Canvas) (area : Rect) (cell : TableCell) : Canvas :=
  (canvas.setStyle area cell.style).drawLine area cell.line

/-- Draws cells into their columns, which are given relative to the area. -/
def drawCells (canvas : Canvas) (area : Rect) (columns : List (Nat × Nat))
    (cells : List TableCell) : Canvas :=
  (columns.zip cells).foldl (fun canvas ((x, width), cell) =>
    canvas.drawCell ⟨area.x + x, area.y, width, area.height⟩ cell) canvas

def drawTableRow (canvas : Canvas) (area : Rect) (columns : List (Nat × Nat)) (markWidth : Nat)
    (table : Table) (isSelected : Bool) (cells : List TableCell) : Canvas :=
  let canvas :=
    if isSelected && 0 < markWidth then
      canvas.drawLine { area with width := markWidth } (Line.ofText table.mark)
    else canvas
  let canvas := canvas.drawCells area columns cells
  if isSelected then canvas.setStyle area table.markStyle else canvas

/-- Draws a table and gives what it remembers. -/
def drawTable (canvas : Canvas) (area : Rect) (table : Table) (view : TableView) :
    Canvas × TableView :=
  let canvas := canvas.drawBlock area table.block
  let body := table.block.inner area
  if body.isEmpty then (canvas, view)
  else
    let count := table.rows.length
    let view :=
      if count = 0 then TableView.initial
      else { view with selected := view.selected.map (min · (count - 1)) }
    let markWidth := if view.selected.isSome then (Line.ofText table.mark).width else 0
    let markRoom := min markWidth body.width
    let columns := Layout.splitWithGap 1 markRoom (body.width - markRoom) table.sizes
    let header : Rect := { body with height := min 1 body.height }
    let canvas := (canvas.setStyle header table.headerStyle).drawCells header columns table.header
    let rowsArea : Rect := ⟨body.x, body.y + 1, body.width, body.height - 1⟩
    if count = 0 then (canvas, view)
    else
      let first := Table.firstRow count view.offset rowsArea.height view.selected
      let shown := ((table.rows.drop first).take rowsArea.height).zipIdx first
      let canvas := shown.foldl (fun canvas (cells, index) =>
        canvas.drawTableRow ⟨rowsArea.x, rowsArea.y + (index - first), rowsArea.width, 1⟩ columns
          markWidth table (view.selected == some index) cells) canvas
      (canvas, { view with offset := first })

end Canvas

end EventConsole.Screen
