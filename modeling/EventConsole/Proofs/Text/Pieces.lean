import Mathlib.Data.List.TakeWhile

/-!
Contract: texts in pieces.

A text up to a mark ends at the first one. The pieces between separators hold none of
them, and together they hold all other characters of the text.
-/

namespace EventConsole.Text

variable {α : Type}

/-! ### Up to a mark -/

section Mark

variable [DecidableEq α] {mark : α} {front : List α}

theorem decide_ne_of_not_mem (absent : mark ∉ front) : ∀ a ∈ front, decide (a ≠ mark) = true := by
  intro a member
  rw [decide_eq_true_eq]
  rintro rfl
  exact absent member

theorem takeWhile_ne_of_not_mem (absent : mark ∉ front) : front.takeWhile (· ≠ mark) = front :=
  List.takeWhile_eq_self_iff.mpr (decide_ne_of_not_mem absent)

theorem dropWhile_ne_of_not_mem (absent : mark ∉ front) : front.dropWhile (· ≠ mark) = [] :=
  List.dropWhile_eq_nil_iff.mpr (decide_ne_of_not_mem absent)

theorem takeWhile_ne_append (absent : mark ∉ front) (rest : List α) :
    (front ++ mark :: rest).takeWhile (· ≠ mark) = front := by
  rw [List.takeWhile_append_of_pos (decide_ne_of_not_mem absent)]
  simp

theorem dropWhile_ne_append (absent : mark ∉ front) (rest : List α) :
    (front ++ mark :: rest).dropWhile (· ≠ mark) = mark :: rest := by
  rw [List.dropWhile_append_of_pos (decide_ne_of_not_mem absent)]
  simp

end Mark

/-- What does not pass is not dropped. -/
theorem mem_dropWhile_of_not {p : α → Bool} {items : List α} {a : α}
    (member : a ∈ items) (stays : p a = false) : a ∈ items.dropWhile p := by
  induction items with
  | nil => cases member
  | cons first rest ih =>
      rw [List.dropWhile_cons]
      split
      case isTrue drops =>
        rcases List.mem_cons.mp member with rfl | later
        · rw [stays] at drops
          cases drops
        · exact ih later
      case isFalse => exact member

/-! ### Between separators -/

/-- A piece between separators holds none. -/
theorem not_of_mem_splitOnP {isSeparator : α → Bool} {text piece : List α}
    (isPiece : piece ∈ text.splitOnP isSeparator) : ∀ a ∈ piece, isSeparator a = false := by
  induction text generalizing piece with
  | nil =>
      rw [List.splitOnP_nil, List.mem_singleton] at isPiece
      simp [isPiece]
  | cons a rest ih =>
      rw [List.splitOnP_cons_eq_if_modifyHead] at isPiece
      split at isPiece
      case isTrue =>
        rcases List.mem_cons.mp isPiece with rfl | later
        · simp
        · exact ih later
      case isFalse plain =>
        obtain ⟨head, tail, shape⟩ :=
          List.exists_cons_of_ne_nil (List.splitOnP_ne_nil isSeparator rest)
        rw [shape, List.modifyHead_cons] at isPiece
        rw [shape] at ih
        rcases List.mem_cons.mp isPiece with rfl | later
        · exact List.forall_mem_cons.mpr ⟨by simpa using plain, ih List.mem_cons_self⟩
        · exact ih (List.mem_cons_of_mem _ later)

theorem mem_intercalate {a separator : α} {pieces : List (List α)}
    (member : a ∈ [separator].intercalate pieces) :
    a = separator ∨ ∃ piece ∈ pieces, a ∈ piece := by
  induction pieces with
  | nil => simp at member
  | cons piece rest ih =>
      by_cases filled : rest = []
      case pos => exact .inr ⟨piece, List.mem_cons_self, by simpa [filled] using member⟩
      case neg =>
        rw [List.intercalate_cons_of_ne_nil filled, List.append_assoc, List.mem_append,
          List.singleton_append, List.mem_cons] at member
        rcases member with inPiece | isSeparator | later
        · exact .inr ⟨piece, List.mem_cons_self, inPiece⟩
        · exact .inl isSeparator
        · refine (ih later).imp_right ?_
          rintro ⟨other, inRest, inOther⟩
          exact ⟨other, List.mem_cons_of_mem _ inRest, inOther⟩

private theorem mem_intercalate_of_mem {a separator : α} {pieces : List (List α)} {piece : List α}
    (isPiece : piece ∈ pieces) (member : a ∈ piece) : a ∈ [separator].intercalate pieces := by
  induction pieces with
  | nil => cases isPiece
  | cons first rest ih =>
      by_cases filled : rest = []
      case pos =>
        subst filled
        rw [List.intercalate_singleton, ← List.mem_singleton.mp isPiece]
        exact member
      case neg =>
        rw [List.intercalate_cons_of_ne_nil filled, List.mem_append]
        rcases List.mem_cons.mp isPiece with rfl | later
        · exact .inl (List.mem_append_left _ member)
        · exact .inr (ih later)

/-- A piece holds what the text holds, apart from the separator. -/
theorem mem_of_mem_splitOn [DecidableEq α] {a separator : α} {text piece : List α}
    (isPiece : piece ∈ text.splitOn separator) (member : a ∈ piece) :
    a ∈ text ∧ a ≠ separator := by
  constructor
  · have inWhole : a ∈ [separator].intercalate (text.splitOn separator) :=
      mem_intercalate_of_mem isPiece member
    rwa [List.intercalate_splitOn] at inWhole
  · rw [List.splitOn_eq_splitOnP] at isPiece
    simpa using not_of_mem_splitOnP isPiece a member

end EventConsole.Text
