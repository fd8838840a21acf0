import EventConsole.Natural
import EventConsole.Text.Letter

/-!
Contract: sets of code points, each written as one number.

A set has a bit for every code point in it, so that large tables are compared by a few
operations on numbers.

Owns: the numbers of lists, ranges and unions, and their bits; properties of all
characters below a code point.
-/

namespace EventConsole.Text

/-- The number with the bits of some code points. -/
def maskOf (codes : List Nat) : Nat := codes.foldr (fun code mask => powerOf 2 code ||| mask) 0

/-- The bits of `count` code points from the first on. -/
def rangeMask (first count : Nat) : Nat := (powerOf 2 count - 1) <<< first

def unionOf (masks : List Nat) : Nat := masks.foldr (fun mask union => mask ||| union) 0

theorem testBit_maskOf {codes : List Nat} {code : Nat} :
    (maskOf codes).testBit code = true ↔ code ∈ codes := by
  induction codes with
  | nil => simp [maskOf]
  | cons first rest ih =>
      rw [maskOf, List.foldr_cons, ← maskOf, Nat.testBit_or, Bool.or_eq_true, ih, List.mem_cons,
        show powerOf 2 first = 2 ^ first from rfl, Nat.testBit_two_pow, decide_eq_true_eq, eq_comm]

theorem testBit_rangeMask {first count code : Nat} :
    (rangeMask first count).testBit code = true ↔ first ≤ code ∧ code < first + count := by
  rw [rangeMask, show powerOf 2 count = 2 ^ count from rfl, Nat.testBit_shiftLeft,
    Nat.testBit_two_pow_sub_one, Bool.and_eq_true, decide_eq_true_eq, decide_eq_true_eq]
  omega

theorem testBit_unionOf {masks : List Nat} {code : Nat} :
    (unionOf masks).testBit code = true ↔ ∃ mask ∈ masks, mask.testBit code = true := by
  induction masks with
  | nil => simp [unionOf]
  | cons first rest ih =>
      rw [unionOf, List.foldr_cons, ← unionOf, Nat.testBit_or, Bool.or_eq_true, ih]
      simp

theorem testBit_part {masks : List Nat} {code : Nat}
    (outside : (unionOf masks).testBit code = false) (mask : Nat) (isPart : mask ∈ masks) :
    mask.testBit code = false := by
  rw [Bool.eq_false_iff] at outside ⊢
  exact fun inPart => outside (testBit_unionOf.mpr ⟨mask, isPart, inPart⟩)

/-- The code points in closed ranges. -/
def rangesMask (ranges : List (Nat × Nat)) : Nat :=
  unionOf (ranges.map fun range => rangeMask range.1 (range.2 + 1 - range.1))

theorem testBit_rangesMask {ranges : List (Nat × Nat)} (inside : inRanges ranges code = true) :
    (rangesMask ranges).testBit code = true := by
  have found : ∃ range ∈ ranges, range.1 ≤ code ∧ code ≤ range.2 := by
    induction ranges with
    | nil => cases inside
    | cons range rest ih =>
        rw [inRanges] at inside
        split at inside
        case isTrue => cases inside
        case isFalse after =>
          split at inside
          case isTrue before =>
            exact ⟨range, List.mem_cons_self, Nat.not_lt.mp after, before⟩
          case isFalse =>
            obtain ⟨other, inRest, bounds⟩ := ih inside
            exact ⟨other, List.mem_cons_of_mem _ inRest, bounds⟩
  obtain ⟨range, inRanges, low, high⟩ := found
  refine testBit_unionOf.mpr ⟨_, List.mem_map_of_mem inRanges, testBit_rangeMask.mpr ⟨low, ?_⟩⟩
  omega

/-- Sets without a common code point. -/
theorem testBit_of_disjoint {mask other : Nat} (disjoint : mask &&& other = 0) {code : Nat}
    (inMask : mask.testBit code = true) : other.testBit code = false := by
  have none := congrArg (Nat.testBit · code) disjoint
  simpa [inMask] using none

/-- Whether code points are new, one after the other. -/
def distinctFrom (seen : Nat) : List Nat → Bool
  | [] => true
  | code :: rest => !seen.testBit code && distinctFrom (powerOf 2 code ||| seen) rest

theorem nodup_of_distinctFrom {seen : Nat} {codes : List Nat}
    (distinct : distinctFrom seen codes = true) :
    codes.Nodup ∧ ∀ code ∈ codes, seen.testBit code = false := by
  induction codes generalizing seen with
  | nil => simp
  | cons first rest ih =>
      rw [distinctFrom, Bool.and_eq_true, Bool.not_eq_true'] at distinct
      obtain ⟨nodup, new⟩ := ih distinct.2
      simp only [Nat.testBit_or, Bool.or_eq_false_iff, show powerOf 2 first = 2 ^ first from rfl,
        Nat.testBit_two_pow, decide_eq_false_iff_not] at new
      refine ⟨List.nodup_cons.mpr ⟨fun again => (new first again).1 rfl, nodup⟩, ?_⟩
      exact List.forall_mem_cons.mpr ⟨distinct.1, fun code member => (new code member).2⟩

/-- What is checked for every code point below a bound holds of the characters. -/
theorem forall_char_lt {bound : Nat} {holds : Char → Prop}
    (all : ∀ code : Fin bound, holds (Char.ofNat code.val)) :
    ∀ c : Char, c.toNat < bound → holds c := by
  intro c small
  have atCode := all ⟨c.toNat, small⟩
  rwa [Char.ofNat_toNat] at atCode

end EventConsole.Text
