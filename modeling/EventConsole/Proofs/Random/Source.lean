import EventConsole.Random.Source

/-!
Contract: what is drawn, whatever the source.

Only bounds are said of words, and no word is assumed to come or not to come. So
a property of what is drawn holds for every seed and at every place of a stream.

Owns: the rules for draws that follow one another, and the ranges of bounded
numbers and of picked items.
-/

namespace EventConsole.Random

/-- Whatever the source, what is drawn has a property. -/
def Always {α : Type} (draw : Draw α) (holds : α → Prop) : Prop :=
  ∀ source, holds (draw.run source).1

/-! ### Draws one after another -/

section Rules

variable {α β : Type}

theorem always_pure {value : α} {holds : α → Prop} (isTrue : holds value) :
    Always (pure value) holds := fun _ => isTrue

/-- The second draw may use what is known of the first. -/
theorem always_bind {draw : Draw α} {next : α → Draw β} {first : α → Prop} {second : β → Prop}
    (isFirst : Always draw first) (isNext : ∀ value, first value → Always (next value) second) :
    Always (draw >>= next) second := by
  intro source
  exact isNext _ (isFirst source) _

theorem always_any (draw : Draw α) : Always draw fun _ => True := fun _ => trivial

theorem Always.imp {draw : Draw α} {holds weaker : α → Prop} (always : Always draw holds)
    (implied : ∀ value, holds value → weaker value) : Always draw weaker :=
  fun source => implied _ (always source)

end Rules

/-! ### Words -/

theorem word32_lt : Always word32 (· < powerOf 2 32) :=
  fun source => source.word.1.toNat_lt

private theorem word64_lt : Always word64 (· < powerOf 2 64) := by
  unfold word64
  refine always_bind word32_lt fun low lowSmall => ?_
  refine always_bind word32_lt fun high highSmall => ?_
  apply always_pure
  change low < 4294967296 at lowSmall
  change high < 4294967296 at highSmall
  show high * 4294967296 + low < 18446744073709551616
  omega

/-! ### Bounded numbers -/

/-- The upper part of a product is below the bound, also where words stop being
passed over. -/
theorem belowWithin_lt {bits bound : Nat} {draw : Draw Nat} (positive : 0 < bound)
    (small : Always draw (· < powerOf 2 bits)) (more : Nat) :
    Always (belowWithin bits bound draw more) (· < bound) := by
  have upperPart {word : Nat} (isSmall : word < powerOf 2 bits) :
      word * bound / powerOf 2 bits < bound := by
    apply Nat.div_lt_of_lt_mul
    exact Nat.mul_lt_mul_of_pos_right isSmall positive
  induction more with
  | zero =>
      rw [belowWithin]
      refine always_bind small fun word isSmall => ?_
      exact always_pure (upperPart isSmall)
  | succ more inductionHypothesis =>
      rw [belowWithin]
      refine always_bind small fun word isSmall => ?_
      dsimp only
      split
      case isTrue => exact always_pure (upperPart isSmall)
      case isFalse => exact inductionHypothesis

theorem below32_lt {bound : Nat} (positive : 0 < bound) : Always (below32 bound) (· < bound) :=
  belowWithin_lt positive word32_lt drawLimit

theorem below64_lt {bound : Nat} (positive : 0 < bound) : Always (below64 bound) (· < bound) :=
  belowWithin_lt positive word64_lt drawLimit

theorem pick_mem {α : Type} (first : α) (others : List α) :
    Always (pick first others) (· ∈ first :: others) := by
  unfold pick
  refine always_bind (below64_lt (Nat.succ_pos others.length)) fun index inRange => ?_
  apply always_pure
  rw [List.getElem?_eq_getElem inRange, Option.getD_some]
  exact List.getElem_mem inRange

end EventConsole.Random
