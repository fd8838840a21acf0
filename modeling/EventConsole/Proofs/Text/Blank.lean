import EventConsole.Text.Letter
import Mathlib.Data.List.TakeWhile

/-!
Contract: trimming takes away the blanks at both ends of a text, and nothing
else.

Owns: texts of blanks only, a text against its trimmed part, and which texts trim
to a given word.
-/

namespace EventConsole.Text

/-- A text of white space only. -/
def AllBlank (text : List Char) : Prop := ∀ c ∈ text, isBlank c = true

/-! ### One end -/

theorem eq_append_trimStart (text : List Char) :
    ∃ before, AllBlank before ∧ text = before ++ trimStart text := by
  refine ⟨text.takeWhile isBlank, fun c member => ?_, ?_⟩
  · exact List.mem_takeWhile_imp member
  · exact List.takeWhile_append_dropWhile.symm

private theorem trimStart_append {before : List Char} (blank : AllBlank before) (rest : List Char) :
    trimStart (before ++ rest) = trimStart rest :=
  List.dropWhile_append_of_pos blank

theorem trimStart_eq_nil_iff {text : List Char} : trimStart text = [] ↔ AllBlank text := by
  rw [trimStart, List.dropWhile_eq_nil_iff]
  exact Iff.rfl

/-- Nothing is taken away in front of a word without blanks. -/
theorem trimStart_word {word : List Char} (noBlank : ∀ c ∈ word, isBlank c = false)
    (filled : word ≠ []) (rest : List Char) : trimStart (word ++ rest) = word ++ rest := by
  cases word with
  | nil => exact absurd rfl filled
  | cons c word =>
      have first : ¬ isBlank c = true := by simp [noBlank c List.mem_cons_self]
      exact List.dropWhile_cons_of_neg first

theorem trimEnd_eq (text : List Char) : trimEnd text = (trimStart text.reverse).reverse := rfl

private theorem eq_trimEnd_append (text : List Char) :
    ∃ after, AllBlank after ∧ text = trimEnd text ++ after := by
  obtain ⟨before, blank, split⟩ := eq_append_trimStart text.reverse
  refine ⟨before.reverse, fun c member => blank c (List.mem_reverse.mp member), ?_⟩
  calc text = text.reverse.reverse := text.reverse_reverse.symm
    _ = (before ++ trimStart text.reverse).reverse := by rw [← split]
    _ = trimEnd text ++ before.reverse := List.reverse_append

/-! ### Both ends -/

/-- A text is its trimmed part between blanks. -/
theorem eq_append_trim_append (text : List Char) :
    ∃ before after, AllBlank before ∧ AllBlank after ∧ text = before ++ trim text ++ after := by
  obtain ⟨before, blankBefore, front⟩ := eq_append_trimStart text
  obtain ⟨after, blankAfter, back⟩ := eq_trimEnd_append (trimStart text)
  refine ⟨before, after, blankBefore, blankAfter, ?_⟩
  rw [List.append_assoc, trim, ← back]
  exact front

theorem trim_eq_nil_iff {text : List Char} : trim text = [] ↔ AllBlank text := by
  constructor
  · intro empty
    obtain ⟨before, after, blankBefore, blankAfter, split⟩ := eq_append_trim_append text
    rw [split, empty, List.append_nil]
    intro c member
    rcases List.mem_append.mp member with inBefore | inAfter
    · exact blankBefore c inBefore
    · exact blankAfter c inAfter
  · intro blank
    rw [trim, trimStart_eq_nil_iff.mpr blank]
    rfl

/-- Blanks around a word without blanks are taken away. -/
theorem trim_between {before word after : List Char} (blankBefore : AllBlank before)
    (noBlank : ∀ c ∈ word, isBlank c = false) (filled : word ≠ []) (blankAfter : AllBlank after) :
    trim (before ++ word ++ after) = word := by
  have backBlank : AllBlank after.reverse :=
    fun c member => blankAfter c (List.mem_reverse.mp member)
  have backNoBlank : ∀ c ∈ word.reverse, isBlank c = false :=
    fun c member => noBlank c (List.mem_reverse.mp member)
  have backFilled : word.reverse ≠ [] := by simpa using filled
  have back : trimStart (word ++ after).reverse = word.reverse := by
    have kept := trimStart_word backNoBlank backFilled []
    rw [List.append_nil] at kept
    rw [List.reverse_append, trimStart_append backBlank, kept]
  rw [trim, List.append_assoc, trimStart_append blankBefore, trimStart_word noBlank filled,
    trimEnd_eq, back, List.reverse_reverse]

theorem trim_of_noBlank {text : List Char} (noBlank : ∀ c ∈ text, isBlank c = false) :
    trim text = text := by
  by_cases empty : text = []
  · rw [empty]
    rfl
  · have noEnds : AllBlank [] := fun _ => List.not_mem_nil.elim
    have kept := trim_between noEnds noBlank empty noEnds
    rw [List.nil_append, List.append_nil] at kept
    exact kept

end EventConsole.Text
