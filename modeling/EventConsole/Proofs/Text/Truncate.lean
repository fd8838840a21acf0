import EventConsole.Text.Cells

/-!
Contract: what a cut text keeps, and how long it is.

A text within the limit is kept. Of a longer one the ends are kept, and a mark
stands in the place of what is left out. The mark is never cut itself: a limit
below its length leaves the mark alone, which is longer than the limit then.

Owns: the parts of a cut text and its length, for both ways of cutting.
-/

namespace EventConsole.Text

/-! ### Marks between two ends -/

/-- The mark in the middle of a text. -/
def dots : List Char := ['.', '.', '.']

/-- The mark at the end of a text. -/
def ellipsis : List Char := ['…']

/-- A text is cut to a limit: when it is longer, so many characters are kept at
its start and at its end, with the mark between them. -/
structure Cuts (mark : List Char) (left right : Nat) (text : List Char) (limit : Nat)
    (cut : List Char) : Prop where
  whole : text.length ≤ limit → cut = text
  parts : limit < text.length → ∃ head hidden tail, text = head ++ hidden ++ tail ∧
    hidden ≠ [] ∧ head.length = left ∧ tail.length = right ∧ cut = head ++ mark ++ tail
  short : mark.length ≤ limit → cut.length ≤ limit
  /-- A mark without room for it is all that is left. -/
  alone : limit < mark.length → limit < text.length → cut = mark

/-- A text falls into its ends and what is between them. -/
theorem eq_ends_of_le {text : List Char} {left right : Nat} (fits : left + right ≤ text.length) :
    text = text.take left ++ (text.drop left).take (text.length - left - right) ++
      text.drop (text.length - right) := by
  have places : text.length - right = left + (text.length - left - right) := by omega
  rw [places, ← List.drop_drop, List.append_assoc, List.take_append_drop, List.take_append_drop]

/-- The ends take the room that the mark leaves. -/
theorem cuts_of_ends {mark text cut : List Char} {left right limit : Nat}
    (room : left + right = limit - mark.length) (whole : text.length ≤ limit → cut = text)
    (ends : limit < text.length →
      cut = text.take left ++ mark ++ text.drop (text.length - right)) :
    Cuts mark left right text limit cut where
  whole := whole
  parts := by
    intro long
    refine ⟨_, _, _, eq_ends_of_le (by omega), ?_, ?_, ?_, ends long⟩
    · rw [← List.length_pos_iff, List.length_take, List.length_drop]
      omega
    · rw [List.length_take]
      omega
    · rw [List.length_drop]
      omega
  short := by
    intro hasRoom
    by_cases fits : text.length ≤ limit
    · rw [whole fits]
      exact fits
    · rw [ends (by omega), List.length_append, List.length_append, List.length_take,
        List.length_drop]
      omega
  alone := by
    intro noRoom long
    obtain ⟨rfl, rfl⟩ : left = 0 ∧ right = 0 := by omega
    rw [ends long, List.take_zero, List.nil_append, Nat.sub_zero, List.drop_length,
      List.append_nil]

/-! ### Both ways of cutting -/

section Cutting

variable {text : List Char} {limit : Nat}

private theorem truncateMiddle_of_fits (fits : text.length ≤ limit) :
    truncateMiddle text limit = text :=
  if_pos fits

/-- A limit of three or less is one of empty ends. -/
theorem truncateMiddle_of_long (long : limit < text.length) :
    truncateMiddle text limit =
      text.take ((limit - 3) / 2) ++ dots ++
        text.drop (text.length - (limit - 3 - (limit - 3) / 2)) := by
  rw [truncateMiddle, if_neg (Nat.not_le_of_gt long)]
  split
  case isTrue narrow =>
    rw [Nat.sub_eq_zero_of_le narrow, Nat.sub_zero, List.drop_length]
    rfl
  case isFalse => rfl

private theorem truncateEnd_of_fits (fits : text.length ≤ limit) : truncateEnd text limit = text :=
  if_pos fits

private theorem truncateEnd_of_long (long : limit < text.length) :
    truncateEnd text limit = text.take (limit - 1) ++ ellipsis ++ text.drop (text.length - 0) := by
  rw [truncateEnd, if_neg (Nat.not_le_of_gt long), Nat.sub_zero, List.drop_length, List.append_nil]
  rfl

end Cutting

/-- Whatever the text and the limit are. -/
theorem cuts_truncate (text : List Char) (limit : Nat) :
    Cuts dots ((limit - 3) / 2) (limit - 3 - (limit - 3) / 2) text limit
        (truncateMiddle text limit) ∧
      Cuts ellipsis (limit - 1) 0 text limit (truncateEnd text limit) := by
  constructor
  · exact cuts_of_ends (Nat.add_sub_of_le (Nat.div_le_self _ 2)) truncateMiddle_of_fits
      truncateMiddle_of_long
  · exact cuts_of_ends rfl truncateEnd_of_fits truncateEnd_of_long

/-- In no width at all one character becomes three dots, or one ellipsis. -/
theorem not_short_noWidth :
    ¬ (truncateMiddle ['a'] 0).length ≤ 0 ∧ ¬ (truncateEnd ['a'] 0).length ≤ 0 := by decide

end EventConsole.Text
