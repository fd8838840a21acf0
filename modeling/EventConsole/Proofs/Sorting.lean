import Mathlib.Data.List.Basic

/-!
Contract: lists in order, and parts of them.

Sorting keeps equal items as they came, so the order before decides between them.

Owns: the order of a sorted list with its equals, the items that a list in order is
cut short of, and the items with a property that passes to earlier ones.
-/

namespace EventConsole

variable {α : Type} {items : List α}

/-- Of two items of a sorted list the first is no greater than the second, and
where they are equals, it came first before. -/
theorem pairwise_mergeSort_of_pairwise {le : α → α → Bool} {cameFirst : α → α → Prop}
    (trans : ∀ a b c, le a b = true → le b c = true → le a c = true)
    (total : ∀ a b, (le a b || le b a) = true) (ordered : items.Pairwise cameFirst) :
    (items.mergeSort le).Pairwise fun a b => le a b = true ∧ (le b a = true → cameFirst a b) := by
  induction items with
  | nil => simp
  | cons item rest inductionHypothesis =>
      obtain ⟨ahead, restOrdered⟩ := List.pairwise_cons.mp ordered
      obtain ⟨smaller, others, isSorted, isRest, notLess⟩ :=
        List.mergeSort_cons trans total item rest
      have sorted := List.pairwise_mergeSort trans total (item :: rest)
      have placed := inductionHypothesis restOrdered
      rw [isRest, List.pairwise_append] at placed
      rw [isSorted, List.pairwise_append, List.pairwise_cons] at sorted
      rw [isSorted, List.pairwise_append, List.pairwise_cons]
      refine ⟨placed.1, ⟨fun other isOther => ?_, placed.2.1⟩,
        fun small isSmall other isOther => ?_⟩
      · -- What is sorted behind the item came behind it.
        have inRest : other ∈ rest :=
          List.mem_mergeSort.mp (isRest ▸ List.mem_append_right _ isOther)
        exact ⟨sorted.2.1.1 other isOther, fun _ => ahead other inRest⟩
      · rcases List.mem_cons.mp isOther with rfl | isLater
        · have less : le other small = false := by simpa using notLess small isSmall
          exact ⟨sorted.2.2 small isSmall other List.mem_cons_self,
            fun equals => absurd (less.symm.trans equals) Bool.false_ne_true⟩
        · exact placed.2.2 small isSmall other isLater

/-- What a sorted list is cut short of comes behind all that is kept. -/
theorem ahead_of_not_mem_take {ahead : α → α → Prop} (ordered : items.Pairwise ahead) {size : Nat}
    {item : α} (isItem : item ∈ items) (isCut : item ∉ items.take size) :
    ∀ kept ∈ items.take size, ahead kept item := by
  intro kept isKept
  rw [← List.take_append_drop size items] at ordered isItem
  have inRest := (List.mem_append.mp isItem).resolve_left isCut
  exact (List.pairwise_append.mp ordered).2.2 kept isKept item inRest

/-- If an item has a property whenever a later one has it, the items that have it
come first. -/
theorem filter_prefix_of_pairwise {wanted : α → Bool}
    (inherits : items.Pairwise fun a b => wanted b = true → wanted a = true) :
    items.filter wanted <+: items := by
  induction items with
  | nil => exact List.nil_prefix
  | cons item rest inductionHypothesis =>
      obtain ⟨ahead, restInherits⟩ := List.pairwise_cons.mp inherits
      cases isWanted : wanted item with
      | true =>
          rw [List.filter_cons_of_pos isWanted]
          exact (List.prefix_cons_inj item).mpr (inductionHypothesis restInherits)
      | false =>
          have none : rest.filter wanted = [] := by
            rw [List.filter_eq_nil_iff]
            intro other isOther found
            exact Bool.false_ne_true (isWanted.symm.trans (ahead other isOther found))
          rw [List.filter_cons_of_neg (by rw [isWanted]; exact Bool.false_ne_true), none]
          exact List.nil_prefix

end EventConsole
