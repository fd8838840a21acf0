import EventConsole.Proofs.Screen.Drawing
import EventConsole.Screen.Table

/-!
Contract: on which line of a screen a table shows which of its rows.

Owns: the drawing of a table taken apart into its frame, its header and one line
for each row in view; that a line inside the frame is that of the row drawn there
and of nothing else; and that the selected row is in view.

Does not own: which rows a table has.
-/

namespace EventConsole.Screen

namespace Table

/-- The selection of a drawn table, which is one of its rows. -/
def selectedRow (table : Table) (selected : Option Nat) : Option Nat :=
  selected.map (min · (table.rows.length - 1))

theorem selectedRow_of_lt {table : Table} {row : Nat} (isRow : row < table.rows.length) :
    table.selectedRow (some row) = some row := by
  rw [selectedRow, Option.map_some, Nat.min_eq_left (Nat.le_sub_one_of_lt isRow)]

/-- The cells before the rows, which the mark takes while a row is selected. -/
def markWidth (table : Table) (selected : Option Nat) : Nat :=
  if selected.isSome then (Line.ofText table.mark).width else 0

/-- The columns of the rows inside a frame of some width. -/
def columns (table : Table) (width : Nat) (selected : Option Nat) : List (Nat × Nat) :=
  let markRoom := min (table.markWidth selected) width
  Layout.splitWithGap 1 markRoom (width - markRoom) table.sizes

/-- The rows in view, with their numbers. -/
def rowsInView (table : Table) (first height : Nat) : List (List TableCell × Nat) :=
  ((table.rows.drop first).take height).zipIdx first

private theorem getElem?_rowsInView {table : Table} {first height place : Nat}
    (inView : place < height) : (table.rowsInView first height)[place]? =
      (table.rows[first + place]?).map fun cells => (cells, first + place) := by
  rw [rowsInView, List.getElem?_zipIdx, List.getElem?_take_of_lt inView, List.getElem?_drop]

private theorem snd_of_getElem?_rowsInView {table : Table} {first height place : Nat}
    {item : List TableCell × Nat} (isItem : (table.rowsInView first height)[place]? = some item) :
    item.2 = first + place := by
  rw [rowsInView, List.getElem?_zipIdx] at isItem
  obtain ⟨cells, -, rfl⟩ := Option.map_eq_some_iff.mp isItem
  rfl

/-- A row that is selected is in view, if any row is. -/
theorem firstRow_inView {count height row : Nat} (offset : Nat) (isRow : row < count)
    (room : 0 < height) :
    firstRow count offset height (some row) ≤ row ∧
      row < firstRow count offset height (some row) + height := by
  unfold firstRow
  dsimp only
  split
  · omega
  · split <;> omega

private theorem firstRow_of_none (count height : Nat) : firstRow count 0 height none = 0 := by
  simp [firstRow]

end Table

namespace Canvas

/-! ### Parts of a table -/

section Parts

variable {column line : Nat} {canvas other : Canvas}

private theorem alike_drawCell {area : Rect} (off : area.IsOff line) (canvas : Canvas)
    (cell : TableCell) : Alike column line canvas (canvas.drawCell area cell) :=
  (alike_setStyle off canvas cell.style).trans (alike_drawLine off _ cell.line)

theorem Alike.drawCell (alike : Alike column line canvas other) (area : Rect)
    (cell : TableCell) :
    Alike column line (canvas.drawCell area cell) (other.drawCell area cell) :=
  (alike.setStyle area cell.style).drawLine area cell.line

theorem alike_drawCells {area : Rect} (off : area.IsOff line) (canvas : Canvas)
    (columns : List (Nat × Nat)) (cells : List TableCell) :
    Alike column line canvas (canvas.drawCells area columns cells) := by
  refine alike_foldl (fun item _ canvas => ?_) canvas
  obtain ⟨⟨x, width⟩, cell⟩ := item
  have offCell : Rect.IsOff ⟨area.x + x, area.y, width, area.height⟩ line := off
  exact alike_drawCell offCell canvas cell

theorem Alike.drawCells (alike : Alike column line canvas other) (area : Rect)
    (columns : List (Nat × Nat)) (cells : List TableCell) :
    Alike column line (canvas.drawCells area columns cells)
      (other.drawCells area columns cells) :=
  alike.foldl (fun item _ _ alike =>
    alike.drawCell ⟨area.x + item.1.1, area.y, item.1.2, area.height⟩ item.2) (columns.zip cells)

private theorem alike_drawTableRow {area : Rect} (off : area.IsOff line) (canvas : Canvas)
    (columns : List (Nat × Nat)) (markWidth : Nat) (table : Table) (isSelected : Bool)
    (cells : List TableCell) :
    Alike column line canvas
      (canvas.drawTableRow area columns markWidth table isSelected cells) := by
  have offMark : Rect.IsOff { area with width := markWidth } line := off
  rw [drawTableRow]
  cases isSelected with
  | false => exact alike_drawCells off canvas columns cells
  | true =>
      refine Alike.trans ?marked
        ((alike_drawCells off _ columns cells).trans (alike_setStyle off _ _))
      split
      · exact alike_drawLine offMark canvas _
      · exact .refl canvas

theorem Alike.drawTableRow (alike : Alike column line canvas other) (area : Rect)
    (columns : List (Nat × Nat)) (markWidth : Nat) (table : Table) (isSelected : Bool)
    (cells : List TableCell) :
    Alike column line (canvas.drawTableRow area columns markWidth table isSelected cells)
      (other.drawTableRow area columns markWidth table isSelected cells) := by
  rw [Canvas.drawTableRow, Canvas.drawTableRow]
  cases isSelected with
  | false => exact alike.drawCells area columns cells
  | true =>
      refine (Alike.drawCells ?marked area columns cells).setStyle area _
      split
      · exact alike.drawLine _ _
      · exact alike

end Parts

/-! ### Tables -/

/-- Draws a row of a table on a line of a canvas, and nothing else. -/
def drawLoneRow (canvas : Canvas) (area : Rect) (table : Table) (selected : Option Nat)
    (line index : Nat) (cells : List TableCell) : Canvas :=
  let body := table.block.inner area
  canvas.drawTableRow ⟨body.x, line, body.width, 1⟩ (table.columns body.width selected)
    (table.markWidth selected) table (selected == some index) cells

/-- Draws the frame and the header of a table. -/
def drawHead (canvas : Canvas) (area : Rect) (table : Table) (selected : Option Nat) : Canvas :=
  let body := table.block.inner area
  let header : Rect := { body with height := min 1 body.height }
  ((canvas.drawBlock area table.block).setStyle header table.headerStyle).drawCells header
    (table.columns body.width selected) table.header

/-- Draws a numbered row as far below the top as it is behind the first one. -/
def drawRowBelow (area : Rect) (table : Table) (selected : Option Nat) (top first : Nat)
    (canvas : Canvas) (item : List TableCell × Nat) : Canvas :=
  canvas.drawLoneRow area table selected (top + (item.2 - first)) item.2 item.1

/-- Draws rows of a table on lines below one another. -/
def drawRows (canvas : Canvas) (area : Rect) (table : Table) (selected : Option Nat)
    (top first height : Nat) : Canvas :=
  (table.rowsInView first height).foldl (drawRowBelow area table selected top first) canvas

section Tables

variable {canvas : Canvas} {area : Rect} {table : Table} {view : TableView}

private theorem alike_drawLoneRow {column line y : Nat} (apart : line ≠ y) (canvas : Canvas)
    (area : Rect) (table : Table) (selected : Option Nat) (index : Nat) (cells : List TableCell) :
    Alike column line canvas (canvas.drawLoneRow area table selected y index cells) := by
  refine alike_drawTableRow ?_ canvas _ _ table _ cells
  simp only [Rect.IsOff, Rect.bottom]
  omega

theorem Alike.drawLoneRow {column line : Nat} {canvas other : Canvas}
    (alike : Alike column line canvas other) (area : Rect) (table : Table)
    (selected : Option Nat) (y index : Nat) (cells : List TableCell) :
    Alike column line (canvas.drawLoneRow area table selected y index cells)
      (other.drawLoneRow area table selected y index cells) :=
  alike.drawTableRow _ _ _ table _ cells

/-- Of all the rows drawn, a line shows its own. -/
theorem alike_drawRows {column top first height place : Nat} {cells : List TableCell}
    (inView : place < height) (isRow : table.rows[first + place]? = some cells)
    (canvas : Canvas) (area : Rect) (selected : Option Nat) :
    Alike column (top + place)
      (canvas.drawLoneRow area table selected (top + place) (first + place) cells)
      (canvas.drawRows area table selected top first height) := by
  have isItem : (table.rowsInView first height)[place]? = some (cells, first + place) := by
    rw [Table.getElem?_rowsInView inView, isRow, Option.map_some]
  have shown : Alike column (top + place)
      (drawRowBelow area table selected top first canvas (cells, first + place))
      (canvas.drawRows area table selected top first height) := by
    refine alike_foldl_of_getElem? isItem (fun index item isOther apart canvas => ?others)
      (fun alike => ?keeps) canvas
    case others =>
      refine alike_drawLoneRow ?_ canvas area table selected _ _
      rw [Table.snd_of_getElem?_rowsInView isOther]
      omega
    case keeps => exact alike.drawLoneRow area table selected _ _ _
  rwa [drawRowBelow, Nat.add_sub_cancel_left] at shown

private theorem drawTable_of_isEmpty (noRoom : (table.block.inner area).isEmpty = true) :
    (canvas.drawTable area table view).2 = view := by
  rw [drawTable]
  dsimp only
  rw [if_pos noRoom]

/-- A table is its head and one line for each row in view. -/
theorem drawTable_eq (room : (table.block.inner area).isEmpty = false) (rows : table.rows ≠ []) :
    let body := table.block.inner area
    let selected := table.selectedRow view.selected
    let first := Table.firstRow table.rows.length view.offset (body.height - 1) selected
    canvas.drawTable area table view =
      ((canvas.drawHead area table selected).drawRows area table selected (body.y + 1) first
          (body.height - 1), ⟨selected, first⟩) := by
  have count : table.rows.length ≠ 0 := fun none => rows (List.eq_nil_of_length_eq_zero none)
  intro body selected first
  rw [drawTable]
  dsimp only
  rw [if_neg (Bool.eq_false_iff.mp room), if_neg count]
  simp only [if_neg count]
  rfl

theorem drawTable_offset_of_none (rows : table.rows ≠ []) :
    (canvas.drawTable area table TableView.initial).2.offset = 0 := by
  cases room : (table.block.inner area).isEmpty with
  | true => rw [drawTable_of_isEmpty room, TableView.initial]
  | false =>
      rw [drawTable_eq room rows]
      exact Table.firstRow_of_none table.rows.length ((table.block.inner area).height - 1)

/-- What a frame leaves of an area with an inside. -/
theorem inner_of_encloses {block : Block} {column line : Nat} (all : block.borders = .all)
    (inside : area.Encloses column line) :
    block.inner area = ⟨area.x + 1, area.y + 1, area.width - 2, area.height - 2⟩ := by
  obtain ⟨left, right, top, bottom⟩ := inside
  simp only [Rect.right, Rect.bottom] at right bottom
  simp only [Block.inner, all, Rect.right, Rect.bottom, Rect.mk.injEq, and_true, and_self]
  omega

private theorem isEmpty_inner_of_encloses {block : Block} {column line : Nat}
    (all : block.borders = .all) (inside : area.Encloses column line) :
    (block.inner area).isEmpty = false := by
  rw [inner_of_encloses all inside]
  obtain ⟨left, right, top, bottom⟩ := inside
  simp only [Rect.right, Rect.bottom] at right bottom
  simp only [Rect.isEmpty, Bool.or_eq_false_iff, beq_eq_false_iff_ne]
  omega

/-- The frame and the header leave the lines of the rows as they were. -/
theorem alike_drawHead {column line : Nat} (holds : canvas.Holds area)
    (all : table.block.borders = .all) (inside : area.Encloses column line)
    (belowHeader : area.y + 2 ≤ line) (selected : Option Nat) :
    Alike column line canvas (canvas.drawHead area table selected) := by
  have off : Rect.IsOff { table.block.inner area with
      height := min 1 (table.block.inner area).height } line := by
    rw [inner_of_encloses all inside]
    simp only [Rect.IsOff, Rect.bottom]
    omega
  exact (alike_drawBlock holds inside all).trans
    ((alike_setStyle off _ _).trans (alike_drawCells off _ _ _))

/-- The rows stand below the header, one on each line, from the offset on. -/
theorem alike_drawTable {column place : Nat} {cells : List TableCell} (holds : canvas.Holds area)
    (all : table.block.borders = .all) (inside : area.Encloses column (area.y + 2 + place))
    (isRow : table.rows[(canvas.drawTable area table view).2.offset + place]? = some cells) :
    Alike column (area.y + 2 + place)
      (canvas.drawLoneRow area table (table.selectedRow view.selected) (area.y + 2 + place)
        ((canvas.drawTable area table view).2.offset + place) cells)
      (canvas.drawTable area table view).1 := by
  have inner := inner_of_encloses all inside
  have room := isEmpty_inner_of_encloses all inside
  have top : (table.block.inner area).y + 1 = area.y + 2 := by rw [inner]
  have inView : place < (table.block.inner area).height - 1 := by
    have bottom := inside.bottom
    rw [Rect.bottom] at bottom
    rw [inner]
    dsimp only
    omega
  have rows : table.rows ≠ [] := by
    intro nothing
    rw [nothing] at isRow
    contradiction
  have drawn : canvas.drawTable area table view = _ := drawTable_eq room rows
  rw [top] at drawn
  have head := alike_drawHead holds all inside (Nat.le_add_right _ place)
    (table.selectedRow view.selected)
  -- The offset that numbers the rows is one that the drawing gives.
  simp only [drawn] at isRow ⊢
  exact (head.drawLoneRow area table _ _ _ _).trans (alike_drawRows inView isRow _ area _)

/-- Inside the frame, a line of a screen is that of a row of the table, as the row
would be drawn there on its own. -/
def ShowsRow (before after : Canvas) (area : Rect) (table : Table) (selected : Option Nat)
    (line index : Nat) : Prop :=
  ∃ cells, table.rows[index]? = some cells ∧
    ∀ column, area.Encloses column line →
      after.cell column line =
        (before.drawLoneRow area table selected line index cells).cell column line

/-- The selected row has a line of its own, if any row has. -/
theorem exists_line_of_selected {row : Nat} (isRow : row < table.rows.length)
    (selected : view.selected = some row) (all : table.block.borders = .all)
    (wide : 2 < area.width) (high : 3 < area.height) :
    ∃ place, area.y + 2 + place + 1 < area.bottom ∧
      (canvas.drawTable area table view).2.offset + place = row := by
  have inside : area.Encloses (area.x + 1) (area.y + 1) := by
    refine ⟨Nat.lt_succ_self _, ?_, Nat.lt_succ_self _, ?_⟩
    · rw [Rect.right]
      omega
    · rw [Rect.bottom]
      omega
  have inner := inner_of_encloses all inside
  have room := isEmpty_inner_of_encloses all inside
  have rows : table.rows ≠ [] := List.ne_nil_of_length_pos (Nat.zero_lt_of_lt isRow)
  have kept : table.selectedRow view.selected = some row := by
    rw [selected, Table.selectedRow_of_lt isRow]
  rw [drawTable_eq room rows, kept, inner]
  dsimp only
  have inView := Table.firstRow_inView view.offset isRow
    (show 0 < area.height - 2 - 1 by omega)
  refine ⟨row - Table.firstRow table.rows.length view.offset (area.height - 2 - 1) (some row), ?_⟩
  simp only [Rect.bottom]
  omega

end Tables

end Canvas

end EventConsole.Screen
