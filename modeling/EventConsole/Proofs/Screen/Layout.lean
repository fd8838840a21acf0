import EventConsole.Proofs.Screen.Drawing
import EventConsole.Screen.Layout

/-!
Contract: parts of an area, one below the other, share no line.

Edges are rounded to cells, so that a part ends where the next one starts,
whatever the sizes are. That the last part ends inside the area is known once the
sizes found take no more than there is.

Owns: parts in a row, rounding, and what of this is left once the parts are areas.

Does not own: how sizes are found.
-/

namespace EventConsole.Screen.Layout

/-! ### Rounding -/

theorem roundHalfUp_le {num other : Nat} (le : num ≤ other) (den : Nat) :
    roundHalfUp num den ≤ roundHalfUp other den :=
  Nat.div_le_div_right (Nat.add_le_add_right (Nat.mul_le_mul_left 2 le) den)

private theorem roundHalfUp_mul (whole : Nat) {den : Nat} (positive : 0 < den) :
    roundHalfUp (whole * den) den = whole := by
  have doubled : 2 * (whole * den) + den = den + whole * (2 * den) := by
    rw [Nat.mul_left_comm, Nat.add_comm]
  rw [roundHalfUp, doubled, Nat.add_mul_div_right _ _ (by omega),
    Nat.div_eq_of_lt (by omega), Nat.zero_add]

private theorem edgeCell_le {units other : Nat} (le : units ≤ other) (unitsPerCell : Nat) :
    edgeCell units unitsPerCell ≤ edgeCell other unitsPerCell :=
  roundHalfUp_le (roundHalfUp_le (Nat.mul_le_mul_right precision le) unitsPerCell) precision

private theorem edgeCell_mul (cells : Nat) {unitsPerCell : Nat} (positive : 0 < unitsPerCell) :
    edgeCell (cells * unitsPerCell) unitsPerCell = cells := by
  have whole : roundHalfUp (cells * unitsPerCell * precision) unitsPerCell = cells * precision := by
    rw [Nat.mul_right_comm, roundHalfUp_mul _ positive]
  rw [edgeCell, whole, roundHalfUp_mul cells (by decide)]

/-! ### Parts in a row -/

/-- Parts that follow one another without a gap, from an edge on and at most up to
another. -/
def Follow : Nat → Nat → List (Nat × Nat) → Prop
  | start, stop, [] => start ≤ stop
  | start, stop, (first, length) :: rest => first = start ∧ Follow (first + length) stop rest

namespace Follow

variable {start stop : Nat} {parts : List (Nat × Nat)}

theorem le (follow : Follow start stop parts) : start ≤ stop := by
  induction parts generalizing start with
  | nil => exact follow
  | cons head rest inductionHypothesis =>
      obtain ⟨rfl, restFollow⟩ := follow
      exact Nat.le_trans (Nat.le_add_right _ _) (inductionHypothesis restFollow)

theorem within (follow : Follow start stop parts) {index first length : Nat}
    (isPart : parts[index]? = some (first, length)) : start ≤ first ∧ first + length ≤ stop := by
  induction parts generalizing start index with
  | nil => contradiction
  | cons head rest inductionHypothesis =>
      obtain ⟨y, size⟩ := head
      obtain ⟨rfl, restFollow⟩ := follow
      cases index with
      | zero =>
          obtain ⟨rfl, rfl⟩ := Prod.mk.inj (Option.some.inj isPart)
          exact ⟨Nat.le_refl _, restFollow.le⟩
      | succ index =>
          have inRest := inductionHypothesis restFollow isPart
          omega

theorem mono {further : Nat} (follow : Follow start stop parts) (le : stop ≤ further) :
    Follow start further parts := by
  induction parts generalizing start with
  | nil => exact Nat.le_trans follow le
  | cons head rest inductionHypothesis => exact ⟨follow.1, inductionHypothesis follow.2⟩

theorem ordered (follow : Follow start stop parts) {index later first length second other : Nat}
    (before : index < later) (isFirst : parts[index]? = some (first, length))
    (isSecond : parts[later]? = some (second, other)) : first + length ≤ second := by
  induction parts generalizing start index later with
  | nil => contradiction
  | cons head rest inductionHypothesis =>
      obtain ⟨y, size⟩ := head
      obtain ⟨rfl, restFollow⟩ := follow
      obtain ⟨later, rfl⟩ := Nat.exists_eq_add_one_of_ne_zero (Nat.ne_zero_of_lt before)
      cases index with
      | zero =>
          obtain ⟨rfl, rfl⟩ := Prod.mk.inj (Option.some.inj isFirst)
          exact (restFollow.within isSecond).1
      | succ index =>
          exact inductionHypothesis restFollow (Nat.lt_of_succ_lt_succ before) isFirst isSecond

end Follow

private theorem follow_place (unitsPerCell edge : Nat) (sizes : List Nat) :
    Follow (edgeCell edge unitsPerCell) (edgeCell (edge + sumOf sizes) unitsPerCell)
      (place 0 unitsPerCell edge sizes) := by
  induction sizes generalizing edge with
  | nil => exact Nat.le_refl _
  | cons size rest inductionHypothesis =>
      have ascends := edgeCell_le (Nat.le_add_right edge size) unitsPerCell
      have next := inductionHypothesis (edge + size)
      refine ⟨rfl, ?_⟩
      rw [Nat.add_sub_cancel' ascends, sumOf, ← Nat.add_assoc]
      exact next

/-- The sizes found take no more than there is. -/
structure Extents.Fit (found : Extents) (total : Nat) : Prop where
  unitsPerCell : 0 < found.unitsPerCell
  sum : sumOf found.sizes ≤ total * found.unitsPerCell

section Parts

variable {total : Nat} {sizes : List Size} (fit : (extents total total sizes).Fit total)
include fit

private theorem follow_split (start : Nat) :
    Follow start (start + total) (split start total sizes) := by
  have room : ¬ total < 0 * (sizes.length - 1) := by
    rw [Nat.zero_mul]
    exact Nat.not_lt_zero total
  rw [split, splitWithGap]
  dsimp only
  rw [if_neg room]
  simp only [Nat.zero_mul, Nat.sub_zero]
  generalize extents total total sizes = found at fit ⊢
  have placed := follow_place found.unitsPerCell (start * found.unitsPerCell) found.sizes
  have inside : start * found.unitsPerCell + sumOf found.sizes ≤
      (start + total) * found.unitsPerCell := by
    rw [Nat.add_mul]
    exact Nat.add_le_add_left fit.sum _
  have stop := edgeCell_le inside found.unitsPerCell
  rw [edgeCell_mul _ fit.unitsPerCell] at placed stop
  exact placed.mono stop

end Parts

/-! ### Areas -/

theorem part_rows_cases (area : Rect) (sizes : List Size) (index : Nat) :
    part (rows area sizes) index = Rect.empty ∨
      ∃ y height, (split area.y area.height sizes)[index]? = some (y, height) ∧
        part (rows area sizes) index = ⟨area.x, y, area.width, height⟩ := by
  rw [part, rows, List.getElem?_map]
  cases isPart : (split area.y area.height sizes)[index]? with
  | none => exact .inl rfl
  | some found => exact .inr ⟨found.1, found.2, rfl, rfl⟩

section Areas

variable {area : Rect} {sizes : List Size}
  (fit : (extents area.height area.height sizes).Fit area.height)
include fit

theorem holds_part_rows {canvas : Canvas} (holds : canvas.Holds area) (index : Nat) :
    canvas.Holds (part (rows area sizes) index) := by
  rcases part_rows_cases area sizes index with nothing | ⟨y, height, isPart, isArea⟩
  · rw [nothing]
    exact ⟨Nat.zero_le _, Nat.zero_le _⟩
  · rw [isArea]
    exact ⟨holds.right,
      Nat.le_trans ((follow_split fit area.y).within isPart).2 holds.bottom⟩

/-- A part ends where a later one starts, or before. -/
theorem bottom_part_rows_le {index later : Nat} (before : index < later) :
    part (rows area sizes) later = Rect.empty ∨
      (part (rows area sizes) index).bottom ≤ (part (rows area sizes) later).y := by
  rcases part_rows_cases area sizes later with nothing | ⟨second, other, isSecond, isLater⟩
  · exact .inl nothing
  rcases part_rows_cases area sizes index with nothing | ⟨first, height, isFirst, isArea⟩
  · rw [nothing]
    exact .inr (Nat.zero_le _)
  · rw [isArea, isLater]
    exact .inr ((follow_split fit area.y).ordered before isFirst isSecond)

/-- A line of one part is not one of another. -/
theorem isOff_part_rows {index other line : Nat} (apart : index ≠ other)
    (top : (part (rows area sizes) other).y ≤ line)
    (bottom : line < (part (rows area sizes) other).bottom) :
    (part (rows area sizes) index).IsOff line := by
  rcases Nat.lt_or_gt_of_ne apart with before | after
  · rcases bottom_part_rows_le fit before with nothing | above
    · rw [nothing] at bottom
      exact absurd bottom (Nat.not_lt_zero line)
    · exact .inr (Nat.le_trans above top)
  · rcases bottom_part_rows_le fit after with nothing | below
    · rw [nothing]
      exact Rect.isOff_empty line
    · exact .inl (Nat.lt_of_lt_of_le bottom below)

end Areas

/-- Parts side by side are on the lines of their area. -/
theorem isOff_part_columns {area : Rect} {line : Nat} (off : area.IsOff line) (sizes : List Size)
    (index : Nat) : (part (columns area sizes) index).IsOff line := by
  rw [part, columns, List.getElem?_map]
  cases (split area.x area.width sizes)[index]? with
  | none => exact Rect.isOff_empty line
  | some found => exact off

end EventConsole.Screen.Layout
