import EventConsole.Screen.Paragraph

/-!
Contract: what drawing changes of a screen, one cell at a time.

A cell changes only by what is drawn into its own line and column, and what becomes
of it depends on nothing but itself. So the cells of a line can be told from what
was drawn there, whatever was drawn elsewhere.

Owns: canvases that are alike at a cell; for each way of drawing, that it leaves the
cells outside its lines as they are; and for lines of text, that what they draw at a
cell depends on that cell alone.

Does not own: tables (`Screen.Table`) and where the parts of a screen are
(`Screen.Layout`).
-/

namespace EventConsole.Screen

namespace Rect

/-- A line above or below an area. -/
def IsOff (area : Rect) (line : Nat) : Prop := line < area.y ∨ area.bottom ≤ line

theorem isOff_empty (line : Nat) : empty.IsOff line := .inr (Nat.zero_le line)

theorem IsOff.intersect {area : Rect} {line : Nat} (off : area.IsOff line) (other : Rect) :
    (area.intersect other).IsOff line := by
  simp only [IsOff, Rect.intersect, bottom] at *
  omega

private theorem IsOff.ne_of_mem {area : Rect} {line y : Nat} (off : area.IsOff line)
    (isRow : y ∈ List.range' area.y area.height) : line ≠ y := by
  have rows := List.mem_range'_1.mp isRow
  simp only [IsOff, bottom] at off
  omega

theorem IsOff.ne_top {area : Rect} {line : Nat} (off : area.IsOff line)
    (filled : area.isEmpty = false) : line ≠ area.y := by
  simp only [IsOff, bottom, isEmpty, Bool.or_eq_false_iff, beq_eq_false_iff_ne] at *
  omega

private theorem IsOff.ne_bottom {area : Rect} {line : Nat} (off : area.IsOff line)
    (filled : area.isEmpty = false) : line ≠ area.bottom - 1 := by
  simp only [IsOff, bottom, isEmpty, Bool.or_eq_false_iff, beq_eq_false_iff_ne] at *
  omega

/-- A place inside the border of an area. -/
structure Encloses (area : Rect) (column line : Nat) : Prop where
  left : area.x < column
  right : column + 1 < area.right
  top : area.y < line
  bottom : line + 1 < area.bottom

end Rect

private theorem Block.isOff_inner {area : Rect} {line : Nat} (off : area.IsOff line)
    (block : Block) : (block.inner area).IsOff line := by
  obtain ⟨borders, style, title⟩ := block
  simp only [Rect.IsOff, Rect.bottom, inner] at *
  cases borders <;> dsimp only <;> omega

namespace Canvas

/-- The cell in a place of the canvas, if the place is on it. -/
def cell? (canvas : Canvas) (x y : Nat) : Option Cell :=
  if x < canvas.width ∧ y < canvas.height then canvas.cells[y * canvas.width + x]? else none

theorem cell_eq (canvas : Canvas) (x y : Nat) :
    canvas.cell x y = (canvas.cell? x y).getD Cell.blank := by
  unfold cell cell?
  split <;> rfl

/-- No part of the area is beyond the canvas. -/
structure Holds (canvas : Canvas) (area : Rect) : Prop where
  right : area.right ≤ canvas.width
  bottom : area.bottom ≤ canvas.height

/-- Two canvases of one size that have the same cell in some place. -/
structure Alike (column line : Nat) (canvas other : Canvas) : Prop where
  width : canvas.width = other.width
  height : canvas.height = other.height
  cell? : canvas.cell? column line = other.cell? column line

namespace Alike

variable {column line : Nat} {canvas other third : Canvas}

theorem refl (canvas : Canvas) : Alike column line canvas canvas := ⟨rfl, rfl, rfl⟩

theorem trans (alike : Alike column line canvas other) (next : Alike column line other third) :
    Alike column line canvas third :=
  ⟨alike.width.trans next.width, alike.height.trans next.height, alike.cell?.trans next.cell?⟩

theorem cell (alike : Alike column line canvas other) :
    canvas.cell column line = other.cell column line := by
  rw [cell_eq, cell_eq, alike.cell?]

theorem area (alike : Alike column line canvas other) : canvas.area = other.area := by
  rw [Canvas.area, Canvas.area, alike.width, alike.height]

end Alike

/-! ### Single cells -/

section Cells

variable {column line : Nat} {canvas other : Canvas}

/-- Places on a canvas are numbered row by row, each by its own number. -/
theorem place_inj {width x y : Nat} (inRow : x < width) (columnInRow : column < width)
    (same : y * width + x = line * width + column) : x = column ∧ y = line := by
  have columns := congrArg (· % width) same
  have rows := congrArg (· / width) same
  have wide : 0 < width := Nat.zero_lt_of_lt inRow
  simp only [Nat.mul_add_mod_self_right, Nat.mod_eq_of_lt inRow,
    Nat.mod_eq_of_lt columnInRow] at columns
  simp only [Nat.mul_comm _ width, Nat.mul_add_div wide, Nat.div_eq_of_lt inRow,
    Nat.div_eq_of_lt columnInRow, Nat.add_zero] at rows
  exact ⟨columns, rows⟩

@[simp] theorem width_modify (canvas : Canvas) (x y : Nat) (change : Cell → Cell) :
    (canvas.modify x y change).width = canvas.width := by
  unfold modify
  split <;> rfl

@[simp] theorem height_modify (canvas : Canvas) (x y : Nat) (change : Cell → Cell) :
    (canvas.modify x y change).height = canvas.height := by
  unfold modify
  split <;> rfl

theorem cell?_modify (canvas : Canvas) (x y : Nat) (change : Cell → Cell) (column line : Nat) :
    (canvas.modify x y change).cell? column line =
      if x = column ∧ y = line then (canvas.cell? column line).map change
      else canvas.cell? column line := by
  by_cases inside : column < canvas.width ∧ line < canvas.height
  · by_cases onCanvas : x < canvas.width ∧ y < canvas.height
    · rw [modify, if_pos onCanvas, cell?, cell?, if_pos inside, if_pos inside,
        Array.getElem?_modify]
      by_cases same : x = column ∧ y = line
      · rw [if_pos same, if_pos (by rw [same.1, same.2])]
      · rw [if_neg same, if_neg fun samePlace => same (place_inj onCanvas.1 inside.1 samePlace)]
    · have elsewhere : ¬ (x = column ∧ y = line) := by
        rintro ⟨rfl, rfl⟩
        exact onCanvas inside
      rw [modify, if_neg onCanvas, if_neg elsewhere]
  · have outside : canvas.cell? column line = none := if_neg inside
    rw [outside, Option.map_none, ite_self, cell?, width_modify, height_modify, if_neg inside]

theorem alike_modify {x y : Nat} (apart : column ≠ x ∨ line ≠ y) (change : Cell → Cell) :
    Alike column line canvas (canvas.modify x y change) := by
  refine ⟨(width_modify ..).symm, (height_modify ..).symm, ?_⟩
  rw [cell?_modify, if_neg]
  rintro ⟨rfl, rfl⟩
  exact apart.elim (fun other => other rfl) fun other => other rfl

theorem Alike.modify (alike : Alike column line canvas other) (x y : Nat)
    (change : Cell → Cell) :
    Alike column line (canvas.modify x y change) (other.modify x y change) := by
  refine ⟨?_, ?_, ?_⟩
  · rw [width_modify, width_modify, alike.width]
  · rw [height_modify, height_modify, alike.height]
  · rw [cell?_modify, cell?_modify, alike.cell?]

end Cells

/-! ### Ranges of cells -/

section Ranges

variable {column line : Nat} {canvas other : Canvas}

theorem alike_foldl {α : Type} {step : Canvas → α → Canvas} {items : List α}
    (leaves : ∀ item ∈ items, ∀ canvas, Alike column line canvas (step canvas item))
    (canvas : Canvas) : Alike column line canvas (items.foldl step canvas) := by
  induction items generalizing canvas with
  | nil => exact .refl canvas
  | cons item rest inductionHypothesis =>
      obtain ⟨first, others⟩ := List.forall_mem_cons.mp leaves
      exact (first canvas).trans (inductionHypothesis others (step canvas item))

theorem Alike.foldl {α : Type} {step : Canvas → α → Canvas}
    (keeps : ∀ item {canvas other}, Alike column line canvas other →
      Alike column line (step canvas item) (step other item))
    (items : List α) (alike : Alike column line canvas other) :
    Alike column line (items.foldl step canvas) (items.foldl step other) := by
  induction items generalizing canvas other with
  | nil => exact alike
  | cons item rest inductionHypothesis => exact inductionHypothesis (keeps item alike)

/-- Of several things drawn, a cell shows the only one that does not leave it. -/
theorem alike_foldl_of_getElem? {α : Type} {step : Canvas → α → Canvas} {items : List α}
    {place : Nat} {item : α} (isItem : items[place]? = some item)
    (others : ∀ index other, items[index]? = some other → index ≠ place →
      ∀ canvas, Alike column line canvas (step canvas other))
    (keeps : ∀ {canvas other}, Alike column line canvas other →
      Alike column line (step canvas item) (step other item))
    (canvas : Canvas) : Alike column line (step canvas item) (items.foldl step canvas) := by
  induction items generalizing place canvas with
  | nil => contradiction
  | cons head rest inductionHypothesis =>
      cases place with
      | zero =>
          obtain rfl := Option.some.inj isItem
          refine alike_foldl (fun other isOther => ?_) (step canvas head)
          obtain ⟨index, atIndex⟩ := List.mem_iff_getElem?.mp isOther
          exact others (index + 1) other atIndex (Nat.succ_ne_zero index)
      | succ place =>
          have leavesHead := others 0 head rfl (Nat.succ_ne_zero place).symm canvas
          refine (keeps leavesHead).trans (inductionHypothesis isItem ?_ (step canvas head))
          intro index other atIndex apart
          exact others (index + 1) other atIndex fun same => apart (Nat.succ.inj same)

theorem alike_setStyle {area : Rect} (off : area.IsOff line) (canvas : Canvas) (style : Style) :
    Alike column line canvas (canvas.setStyle area style) :=
  alike_foldl (fun _ inRows canvas => alike_foldl (fun _ _ _ =>
    alike_modify (.inr ((off.intersect _).ne_of_mem inRows)) _) canvas) canvas

theorem Alike.setStyle (alike : Alike column line canvas other) (area : Rect) (style : Style) :
    Alike column line (canvas.setStyle area style) (other.setStyle area style) := by
  rw [Canvas.setStyle, Canvas.setStyle, alike.area]
  exact alike.foldl (fun y _ _ alike => alike.foldl (fun x _ _ alike => alike.modify x y _) _) _

private theorem alike_clearCovered {y : Nat} (apart : line ≠ y) (canvas : Canvas) (x width : Nat) :
    Alike column line canvas (canvas.clearCovered x y width) :=
  alike_foldl (fun _ _ _ => alike_modify (.inr apart) _) canvas

theorem Alike.clearCovered (alike : Alike column line canvas other) (x y width : Nat) :
    Alike column line (canvas.clearCovered x y width) (other.clearCovered x y width) :=
  alike.foldl (fun hidden _ _ alike => alike.modify hidden y _) _

/-- A horizontal rule stays on its line. -/
theorem alike_drawRow {y : Nat} (apart : line ≠ y) (canvas : Canvas) (area : Rect)
    (style : Style) : Alike column line canvas (canvas.drawRow area y style) :=
  alike_foldl (fun _ _ _ => alike_modify (.inr apart) _) canvas

/-- A vertical rule stays in its column. -/
theorem alike_drawColumn {x : Nat} (apart : column ≠ x) (canvas : Canvas) (area : Rect)
    (style : Style) : Alike column line canvas (canvas.drawColumn area x style) :=
  alike_foldl (fun _ _ _ => alike_modify (.inl apart) _) canvas

private theorem alike_drawColumn_of_isOff {area : Rect} (off : area.IsOff line) (canvas : Canvas)
    (x : Nat) (style : Style) : Alike column line canvas (canvas.drawColumn area x style) :=
  alike_foldl (fun _ inRows _ => alike_modify (.inr (off.ne_of_mem inRows)) _) canvas

end Ranges

/-! ### Text -/

section Text

variable {column line : Nat} {canvas other : Canvas}

private theorem alike_drawUnits {y : Nat} (apart : line ≠ y) (start right : Nat) (style : Style)
    (units : List (List Char)) (canvas : Canvas) (x : Nat) (first : Bool) :
    Alike column line canvas (canvas.drawUnits start right y style x first units) := by
  induction units generalizing canvas x first with
  | nil => exact .refl canvas
  | cons unit rest inductionHypothesis =>
      rw [drawUnits]
      dsimp only
      split
      · exact .refl canvas
      · refine Alike.trans ?written (inductionHypothesis _ _ _)
        refine Alike.trans ?symbol (alike_clearCovered apart _ _ _)
        split
        · exact alike_modify (.inr apart) _
        split
        · exact alike_modify (.inr apart) _
        split <;> exact alike_modify (.inr apart) _

theorem Alike.drawUnits (alike : Alike column line canvas other) (start right y : Nat)
    (style : Style) (units : List (List Char)) (x : Nat) (first : Bool) :
    Alike column line (canvas.drawUnits start right y style x first units)
      (other.drawUnits start right y style x first units) := by
  induction units generalizing canvas other x first with
  | nil => exact alike
  | cons unit rest inductionHypothesis =>
      rw [Canvas.drawUnits, Canvas.drawUnits]
      dsimp only
      split
      · exact alike
      · refine inductionHypothesis (Alike.clearCovered ?symbol _ _ _) _ _
        split
        · exact alike.modify _ _ _
        split
        · exact alike.modify _ _ _
        split <;> exact alike.modify _ _ _

private theorem alike_drawSpans {area : Rect} (apart : line ≠ area.y) (spans : List Span)
    (canvas : Canvas) : Alike column line canvas (canvas.drawSpans area spans) := by
  induction spans generalizing canvas area with
  | nil => exact .refl canvas
  | cons span rest inductionHypothesis =>
      rw [drawSpans]
      split
      · exact inductionHypothesis apart canvas
      split
      · exact .refl canvas
      · have top : (area.intersect canvas.area).y = area.y := Nat.max_eq_left (Nat.zero_le _)
        rw [top]
        have next := inductionHypothesis (show line ≠ (area.dropColumns span.width).y from apart)
        exact (alike_drawUnits apart _ _ _ _ _ _ _).trans (next _)

theorem Alike.drawSpans (alike : Alike column line canvas other) (area : Rect)
    (spans : List Span) :
    Alike column line (canvas.drawSpans area spans) (other.drawSpans area spans) := by
  induction spans generalizing canvas other area with
  | nil => exact alike
  | cons span rest inductionHypothesis =>
      rw [Canvas.drawSpans, Canvas.drawSpans, alike.area]
      split
      · exact inductionHypothesis alike area
      split
      · exact alike
      · exact inductionHypothesis (alike.drawUnits _ _ _ _ _ _ _) _

theorem alike_drawLine {area : Rect} (off : area.IsOff line) (canvas : Canvas) (text : Line) :
    Alike column line canvas (canvas.drawLine area text) := by
  rw [drawLine]
  split
  · exact .refl canvas
  · rename_i filled
    have apart := (off.intersect canvas.area).ne_top (Bool.eq_false_iff.mpr filled)
    have top : line ≠ ({ area.intersect canvas.area with height := 1 } : Rect).y := apart
    exact alike_drawSpans top _ canvas

theorem Alike.drawLine (alike : Alike column line canvas other) (area : Rect) (text : Line) :
    Alike column line (canvas.drawLine area text) (other.drawLine area text) := by
  rw [Canvas.drawLine, Canvas.drawLine, alike.area]
  split
  · exact alike
  · exact alike.drawSpans _ _

private theorem alike_putUnits {y : Nat} (apart : line ≠ y) (items : List StyledUnit)
    (canvas : Canvas) (x : Nat) : Alike column line canvas (canvas.putUnits x y items) := by
  induction items generalizing canvas x with
  | nil => exact .refl canvas
  | cons item rest inductionHypothesis =>
      rw [putUnits]
      split
      · exact inductionHypothesis canvas x
      · exact (alike_modify (.inr apart) _).trans (inductionHypothesis _ _)

/-- Lines of text below one another stay on the lines of their area. -/
theorem alike_drawLines {area : Rect} (off : area.IsOff line) (canvas : Canvas)
    (offset : Nat → Nat) (lines : List Line) :
    Alike column line canvas (canvas.drawLines area offset lines) := by
  have below (texts : List Line) (canvas : Canvas) (y : Nat)
      (apart : line < y ∨ y + texts.length ≤ line) :
      Alike column line canvas
        (texts.foldl (fun (state : Canvas × Nat) text =>
          let items := fitting area.width 0 text.styledUnits
          (state.1.putUnits (area.x + offset (unitsWidth items)) state.2 items, state.2 + 1))
          (canvas, y)).1 := by
    induction texts generalizing canvas y with
    | nil => exact .refl canvas
    | cons text rest inductionHypothesis =>
        rw [List.length_cons] at apart
        exact (alike_putUnits (by omega) _ _ _).trans
          (inductionHypothesis _ (y + 1) (by omega))
  rw [drawLines]
  split
  · exact .refl canvas
  · refine below (lines.take area.height) canvas area.y ?_
    have short : (lines.take area.height).length ≤ area.height := List.length_take_le ..
    simp only [Rect.IsOff, Rect.bottom] at off
    omega

theorem alike_drawParagraph {area : Rect} (off : area.IsOff line) (canvas : Canvas)
    (lines : List Line) : Alike column line canvas (canvas.drawParagraph area lines) :=
  alike_drawLines off canvas (fun _ => 0) lines

end Text

/-! ### Frames -/

section Frames

variable {column line : Nat} {area : Rect}

private theorem alike_drawFrame (inside : area.Encloses column line) (canvas : Canvas)
    (style : Style) : Alike column line canvas (canvas.drawFrame area style) := by
  have notLeft : column ≠ area.x := Nat.ne_of_gt inside.left
  have notRight : column ≠ area.right - 1 := by have := inside.right; omega
  have notTop : line ≠ area.y := Nat.ne_of_gt inside.top
  have notBottom : line ≠ area.bottom - 1 := by have := inside.bottom; omega
  have sides := ((alike_drawColumn notLeft canvas area style).trans
    (alike_drawRow notTop _ area style)).trans
      ((alike_drawColumn notRight _ area style).trans (alike_drawRow notBottom _ area style))
  exact sides.trans ((alike_modify (.inl notRight) _).trans ((alike_modify (.inl notRight) _).trans
    ((alike_modify (.inl notLeft) _).trans (alike_modify (.inl notLeft) _))))

private theorem alike_drawFrame_of_isOff (off : area.IsOff line) (filled : area.isEmpty = false)
    (canvas : Canvas) (style : Style) :
    Alike column line canvas (canvas.drawFrame area style) := by
  have notTop := off.ne_top filled
  have notBottom := off.ne_bottom filled
  have left : Alike column line canvas (canvas.drawColumn area area.x style) :=
    alike_drawColumn_of_isOff off canvas area.x style
  have sides := (left.trans (alike_drawRow notTop _ area style)).trans
    ((alike_drawColumn_of_isOff off _ (area.right - 1) style).trans
      (alike_drawRow notBottom _ area style))
  exact sides.trans ((alike_modify (.inr notBottom) _).trans ((alike_modify (.inr notTop) _).trans
    ((alike_modify (.inr notBottom) _).trans (alike_modify (.inr notTop) _))))

theorem Holds.intersect {canvas : Canvas} (holds : canvas.Holds area) :
    area.intersect canvas.area = area := by
  obtain ⟨right, bottom⟩ := holds
  obtain ⟨x, y, width, height⟩ := area
  simp only [Rect.intersect, Canvas.area, Rect.right, Rect.bottom] at right bottom ⊢
  congr 1 <;> omega

theorem alike_drawBlock {canvas : Canvas} (holds : canvas.Holds area)
    (inside : area.Encloses column line) {block : Block} (all : block.borders = .all) :
    Alike column line canvas (canvas.drawBlock area block) := by
  rw [drawBlock, holds.intersect, all]
  dsimp only
  split
  · exact .refl canvas
  · have framed := alike_drawFrame inside canvas block.style
    split
    · exact framed
    · exact framed.trans (alike_drawLine (.inr inside.top) _ _)

private theorem alike_drawBlock_of_isOff (off : area.IsOff line) (canvas : Canvas) (block : Block) :
    Alike column line canvas (canvas.drawBlock area block) := by
  have shownOff := off.intersect canvas.area
  rw [drawBlock]
  dsimp only
  generalize area.intersect canvas.area = shown at shownOff
  split
  · exact .refl canvas
  · rename_i notEmpty
    have filled : shown.isEmpty = false := Bool.eq_false_iff.mpr notEmpty
    split
    · exact alike_drawRow (shownOff.ne_bottom filled) canvas shown block.style
    · have framed : Alike column line canvas (canvas.drawFrame shown block.style) :=
        alike_drawFrame_of_isOff shownOff filled canvas block.style
      split
      · exact framed
      · refine framed.trans (alike_drawLine ?_ _ _)
        have notTop := shownOff.ne_top filled
        simp only [Rect.IsOff, Rect.bottom]
        omega

theorem alike_drawPanel (off : area.IsOff line) (canvas : Canvas) (block : Block)
    (texts : List Line) : Alike column line canvas (canvas.drawPanel area block texts) :=
  (alike_drawBlock_of_isOff off canvas block).trans
    (alike_drawParagraph (block.isOff_inner off) _ texts)

end Frames

end Canvas

end EventConsole.Screen
