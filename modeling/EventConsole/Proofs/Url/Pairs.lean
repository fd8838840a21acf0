import EventConsole.Proofs.Text.CodeSet
import EventConsole.Proofs.Text.Pieces
import EventConsole.Proofs.Text.Utf8
import EventConsole.Url.Composition
import Mathlib.Data.List.Nodup

/-!
Contract: a character is joined exactly from the two that it is split into.

Pairs come from a table, or they are the letters of Korean syllables. What follows in a
pair does not split, and no character splits more than twice. The table is compared with
itself as sets of code points.

Owns: the pairs that characters stand for.

Does not own: texts of characters (`Composition`).
-/

namespace EventConsole.Url

open Text (maskOf rangeMask unionOf testBit_maskOf testBit_rangeMask testBit_unionOf)

variable {code first second whole : Nat}

/-- A code point stands for two in a row. -/
def Pairs (first second whole : Nat) : Prop :=
  splitSyllable? whole = some (first, second) ∨ ⟨first, second, whole⟩ ∈ pairings

def firstMask : Nat := maskOf (pairings.map Pairing.first)
def secondMask : Nat := maskOf (pairings.map Pairing.second)
def wholeMask : Nat := maskOf (pairings.map Pairing.whole)
def syllableMask : Nat := rangeMask firstSyllable (19 * 21 * 28)

/-- Consonants, vowels and final consonants. -/
def letterMask : Nat :=
  unionOf [rangeMask firstConsonant 19, rangeMask firstVowel 21, rangeMask firstFinal 28]

/-- Code points that stand for pairs. -/
def pairedMask : Nat := unionOf [wholeMask, syllableMask]

/-- First code points of pairs whose whole is the first of another pair. -/
def innerMask : Nat :=
  maskOf ((pairings.filter fun pairing => firstMask.testBit pairing.whole).map Pairing.first)

/-- What the tables keep apart. No whole and no second part is an ASCII character. -/
theorem disjoint_masks :
    wholeMask &&& syllableMask = 0 ∧ firstMask &&& syllableMask = 0 ∧
      secondMask &&& pairedMask = 0 ∧ letterMask &&& pairedMask = 0 ∧
      innerMask &&& pairedMask = 0 ∧ unionOf [pairedMask, secondMask] &&& rangeMask 0 128 = 0 ∧
      firstMask.testBit '.'.toNat = false := by
  decide +kernel

private theorem wholeMask_syllableMask : wholeMask &&& syllableMask = 0 := disjoint_masks.1
private theorem firstMask_syllableMask : firstMask &&& syllableMask = 0 := disjoint_masks.2.1
private theorem secondMask_pairedMask : secondMask &&& pairedMask = 0 := disjoint_masks.2.2.1
theorem letterMask_pairedMask : letterMask &&& pairedMask = 0 := disjoint_masks.2.2.2.1
private theorem innerMask_pairedMask : innerMask &&& pairedMask = 0 := disjoint_masks.2.2.2.2.1
private theorem pairedMask_ascii : unionOf [pairedMask, secondMask] &&& rangeMask 0 128 = 0 :=
  disjoint_masks.2.2.2.2.2.1
private theorem firstMask_stop : firstMask.testBit '.'.toNat = false := disjoint_masks.2.2.2.2.2.2

private theorem valid_pairings : ∀ pairing ∈ pairings,
    pairing.first.isValidChar ∧ pairing.second.isValidChar ∧ pairing.whole.isValidChar := by
  decide +kernel

private theorem nodup_wholes : (pairings.map Pairing.whole).Nodup :=
  (Text.nodup_of_distinctFrom (by decide +kernel : Text.distinctFrom 0 _ = true)).1

/-! ### Korean syllables -/

/-- A syllable is split into two letters, or into a syllable and a final consonant. -/
theorem splitSyllable?_bounds
    (split : splitSyllable? code = some (first, second)) :
    ((firstConsonant ≤ first ∧ first < firstConsonant + 19) ∧
        firstVowel ≤ second ∧ second < firstVowel + 21) ∨
      ((firstSyllable ≤ first ∧ first < firstSyllable + 19 * 21 * 28) ∧
        firstFinal ≤ second ∧ second < firstFinal + 28) := by
  unfold splitSyllable? at split
  generalize firstSyllable = syllable, firstConsonant = consonant, firstVowel = vowel,
    firstFinal = final at *
  split at split
  case isFalse => cases split
  case isTrue =>
    dsimp only at split
    split at split
    · cases split
      omega
    · cases split
      omega

/-- What is joined is a syllable. -/
theorem joinSyllable?_bounds
    (joined : joinSyllable? first second = some whole) :
    firstSyllable ≤ whole ∧ whole < firstSyllable + 19 * 21 * 28 := by
  unfold joinSyllable? at joined
  generalize firstSyllable = syllable, firstConsonant = consonant, firstVowel = vowel,
    firstFinal = final at *
  split at joined
  case isTrue =>
    cases joined
    omega
  case isFalse =>
    split at joined
    case isTrue =>
      cases joined
      omega
    case isFalse => cases joined

private theorem splitSyllable?_of_joinSyllable? (joined : joinSyllable? first second = some whole) :
    splitSyllable? whole = some (first, second) := by
  unfold joinSyllable? at joined
  unfold splitSyllable?
  generalize firstSyllable = syllable, firstConsonant = consonant, firstVowel = vowel,
    firstFinal = final at *
  split at joined
  case isTrue =>
    cases joined
    rw [if_pos (by omega)]
    dsimp only
    rw [if_pos (by omega), Option.some.injEq, Prod.mk.injEq]
    omega
  case isFalse =>
    split at joined
    case isTrue =>
      cases joined
      rw [if_pos (by omega)]
      dsimp only
      rw [if_neg (by omega), Option.some.injEq, Prod.mk.injEq]
      omega
    case isFalse => cases joined

theorem testBit_syllableMask :
    syllableMask.testBit whole = true ↔ (splitSyllable? whole).isSome = true := by
  rw [syllableMask, testBit_rangeMask, splitSyllable?]
  split
  case isTrue inside => exact iff_of_true inside (by dsimp only; split <;> rfl)
  case isFalse outside => exact iff_of_false outside (by simp)

/-! ### Pairs and characters -/

theorem testBit_wholeMask {pairing : Pairing} (member : pairing ∈ pairings) :
    wholeMask.testBit pairing.whole = true :=
  testBit_maskOf.mpr (List.mem_map_of_mem member)

private theorem splitSyllable?_of_mem {pairing : Pairing} (member : pairing ∈ pairings) :
    splitSyllable? pairing.whole = none := by
  have outside := Text.testBit_of_disjoint wholeMask_syllableMask (testBit_wholeMask member)
  rwa [Bool.eq_false_iff, ne_eq, testBit_syllableMask, Option.not_isSome_iff_eq_none] at outside

theorem Pairs.testBit (pairs : Pairs first second whole) : pairedMask.testBit whole = true := by
  rcases pairs with syllable | member
  · refine testBit_unionOf.mpr ⟨syllableMask, by simp, ?_⟩
    rw [testBit_syllableMask, syllable]
    rfl
  · exact testBit_unionOf.mpr ⟨wholeMask, by simp, testBit_wholeMask member⟩

/-- What stands for a pair and what follows in it is beyond ASCII. -/
theorem beyond_ascii_of_testBit (inMask : (unionOf [pairedMask, secondMask]).testBit code = true) :
    128 ≤ code := by
  have outside := Text.testBit_of_disjoint pairedMask_ascii inMask
  rw [Bool.eq_false_iff, ne_eq, testBit_rangeMask] at outside
  omega

/-- Only the first of a pair may be an ASCII character. -/
theorem Pairs.beyond_ascii (pairs : Pairs first second whole) : 128 ≤ second ∧ 128 ≤ whole := by
  refine ⟨?_, beyond_ascii_of_testBit (testBit_unionOf.mpr ⟨_, by simp, pairs.testBit⟩)⟩
  rcases pairs with syllable | member
  · rcases splitSyllable?_bounds syllable with ⟨-, low, -⟩ | ⟨-, low, -⟩
    · exact Nat.le_trans (by decide) low
    · exact Nat.le_trans (by decide) low
  · refine beyond_ascii_of_testBit (testBit_unionOf.mpr ⟨secondMask, by simp, ?_⟩)
    exact testBit_maskOf.mpr (List.mem_map_of_mem member)

theorem Pairs.isValidChar (pairs : Pairs first second whole) :
    first.isValidChar ∧ second.isValidChar ∧ whole.isValidChar := by
  rcases pairs with syllable | member
  · have isSyllable := testBit_rangeMask.mp
      (testBit_syllableMask.mpr (by rw [syllable]; rfl : (splitSyllable? whole).isSome = true))
    have valid : ∀ {code bound : Nat}, code < bound → bound ≤ 0xD800 → code.isValidChar :=
      fun below small => .inl (Nat.lt_of_lt_of_le below small)
    refine (and_assoc.mp ⟨?_, valid isSyllable.2 (by decide)⟩)
    rcases splitSyllable?_bounds syllable with ⟨isFirst, isSecond⟩ | ⟨isFirst, isSecond⟩
    · exact ⟨valid isFirst.2 (by decide), valid isSecond.2 (by decide)⟩
    · exact ⟨valid isFirst.2 (by decide), valid isSecond.2 (by decide)⟩
  · exact valid_pairings _ member

private theorem find?_whole {pairing : Pairing} (member : pairing ∈ pairings) :
    (pairings.find? fun other => other.whole == pairing.whole) = some pairing := by
  cases found : pairings.find? fun other => other.whole == pairing.whole with
  | none =>
      have other := List.find?_eq_none.mp found pairing member
      simp at other
  | some other =>
      have same : other.whole = pairing.whole := by simpa using List.find?_some found
      have isOther := List.mem_of_find?_eq_some found
      rw [List.inj_on_of_nodup_map nodup_wholes isOther member same]

/-- A character is split exactly into the pair that it stands for. -/
theorem splitChar?_eq_some_iff {c a b : Char} :
    splitChar? c = some (a, b) ↔ Pairs a.toNat b.toNat c.toNat := by
  have valid : ∀ {first second : Nat}, Pairs first second c.toNat →
      ∀ {a b : Char}, (Char.ofNat first, Char.ofNat second) = (a, b) →
        Pairs a.toNat b.toNat c.toNat := by
    intro first second pairs a b same
    cases same
    obtain ⟨validFirst, validSecond, -⟩ := pairs.isValidChar
    rwa [Text.Utf8.toNat_ofNat_char validFirst, Text.Utf8.toNat_ofNat_char validSecond]
  constructor
  · intro split
    rw [splitChar?] at split
    obtain ⟨⟨first, second⟩, parts, same⟩ := Option.map_eq_some_iff.mp split
    split at parts
    case isTrue => cases parts
    case isFalse =>
      split at parts
      case h_1 syllable =>
        cases parts
        exact valid (.inl syllable) same
      case h_2 =>
        obtain ⟨pairing, found, isPair⟩ := Option.map_eq_some_iff.mp parts
        cases isPair
        have isWhole : pairing.whole = c.toNat := by simpa using List.find?_some found
        refine valid (.inr ?_) same
        rw [← isWhole]
        exact List.mem_of_find?_eq_some found
  · intro pairs
    have beyond : ¬ c.toNat < 128 := Nat.not_lt.mpr pairs.beyond_ascii.2
    rw [splitChar?]
    dsimp only
    rw [if_neg beyond]
    rcases pairs with syllable | member
    · rw [syllable]
      simp
    · have noSyllable := splitSyllable?_of_mem member
      have found := find?_whole member
      dsimp only at noSyllable found
      rw [noSyllable, found]
      simp

/-- What is joined is split into the same pair. -/
theorem splitChar?_of_joinChars? {a b c : Char} (joined : joinChars? a b = some c) :
    splitChar? c = some (a, b) := by
  have valid : ∀ {whole : Nat}, Pairs a.toNat b.toNat whole →
      splitChar? (Char.ofNat whole) = some (a, b) := by
    intro whole pairs
    rw [splitChar?_eq_some_iff, Text.Utf8.toNat_ofNat_char pairs.isValidChar.2.2]
    exact pairs
  rw [joinChars?] at joined
  obtain ⟨whole, found, rfl⟩ := Option.map_eq_some_iff.mp joined
  split at found
  case isTrue => cases found
  case isFalse =>
    split at found
    case h_1 syllable =>
      cases found
      exact valid (.inl (splitSyllable?_of_joinSyllable? syllable))
    case h_2 =>
      obtain ⟨pairing, isPairing, rfl⟩ := Option.map_eq_some_iff.mp found
      have parts : pairing.first = a.toNat ∧ pairing.second = b.toNat := by
        simpa using List.find?_some isPairing
      refine valid (.inr ?_)
      rw [← parts.1, ← parts.2]
      exact List.mem_of_find?_eq_some isPairing

/-! ### Splitting again -/

theorem splitChar?_of_outside {c : Char} (outside : pairedMask.testBit c.toNat = false) :
    splitChar? c = none := by
  cases split : splitChar? c with
  | none => rfl
  | some parts =>
      have inside := (splitChar?_eq_some_iff.mp split).testBit
      rw [outside] at inside
      cases inside

/-- What follows in a pair does not split. -/
theorem splitChar?_second {a b c : Char} (split : splitChar? c = some (a, b)) :
    splitChar? b = none := by
  refine splitChar?_of_outside ?_
  rcases splitChar?_eq_some_iff.mp split with syllable | member
  · refine Text.testBit_of_disjoint letterMask_pairedMask (testBit_unionOf.mpr ?_)
    rcases splitSyllable?_bounds syllable with ⟨-, isVowel⟩ | ⟨-, isFinal⟩
    · exact ⟨_, by simp, testBit_rangeMask.mpr isVowel⟩
    · exact ⟨_, by simp, testBit_rangeMask.mpr isFinal⟩
  · refine Text.testBit_of_disjoint secondMask_pairedMask ?_
    exact testBit_maskOf.mpr (List.mem_map_of_mem member)

/-- A syllable with a final consonant is split into letters in two steps. -/
theorem splitSyllable?_twice {third : Nat} (split : splitSyllable? code = some (whole, third))
    (again : splitSyllable? whole = some (first, second)) :
    firstConsonant ≤ first ∧ first < firstConsonant + 19 := by
  have apart : firstConsonant + 19 ≤ firstSyllable := by decide
  unfold splitSyllable? at split again
  generalize firstSyllable = syllable, firstConsonant = consonant, firstVowel = vowel,
    firstFinal = final at *
  split at again
  case isFalse => cases again
  case isTrue =>
    split at split
    case isFalse => cases split
    case isTrue =>
      dsimp only at split again
      split at split
      case isTrue =>
        cases split
        omega
      case isFalse =>
        cases split
        rw [if_pos (by omega)] at again
        cases again
        omega

/-- A character splits twice at most. -/
theorem splitChar?_first {a b c x y : Char} (split : splitChar? c = some (a, b))
    (again : splitChar? a = some (x, y)) : splitChar? x = none := by
  refine splitChar?_of_outside ?_
  rcases splitChar?_eq_some_iff.mp again with syllable | inner
  · have isSyllable : syllableMask.testBit a.toNat = true :=
      testBit_syllableMask.mpr (by rw [syllable]; rfl)
    rcases splitChar?_eq_some_iff.mp split with outer | member
    · refine Text.testBit_of_disjoint letterMask_pairedMask (testBit_unionOf.mpr ?_)
      exact ⟨_, List.mem_cons_self, testBit_rangeMask.mpr (splitSyllable?_twice outer syllable)⟩
    · have isFirst : firstMask.testBit a.toNat = true :=
        testBit_maskOf.mpr (List.mem_map_of_mem member)
      have noSyllable := Text.testBit_of_disjoint firstMask_syllableMask isFirst
      rw [isSyllable] at noSyllable
      cases noSyllable
  · have isWhole : wholeMask.testBit a.toNat = true := testBit_wholeMask inner
    rcases splitChar?_eq_some_iff.mp split with outer | member
    · -- What is split off a syllable is a letter or a syllable, and neither is in the table.
      rcases splitSyllable?_bounds outer with ⟨isLetter, -⟩ | ⟨isSyllable, -⟩
      · have paired := (splitChar?_eq_some_iff.mp again).testBit
        rw [Text.testBit_of_disjoint letterMask_pairedMask
          (testBit_unionOf.mpr ⟨_, List.mem_cons_self, testBit_rangeMask.mpr isLetter⟩)] at paired
        cases paired
      · have inside : syllableMask.testBit a.toNat = true := testBit_rangeMask.mpr isSyllable
        rw [Text.testBit_of_disjoint wholeMask_syllableMask isWhole] at inside
        cases inside
    · have isFirst : firstMask.testBit a.toNat = true :=
        testBit_maskOf.mpr (List.mem_map_of_mem member)
      have isInner : (⟨x.toNat, y.toNat, a.toNat⟩ : Pairing) ∈
          pairings.filter fun pairing => firstMask.testBit pairing.whole :=
        List.mem_filter.mpr ⟨inner, isFirst⟩
      refine Text.testBit_of_disjoint innerMask_pairedMask (testBit_maskOf.mpr ?_)
      exact List.mem_map_of_mem (f := Pairing.first) isInner

/-! ### Full stops -/

/-- A full stop is the first of no pair. -/
theorem not_pairs_stop : ¬ Pairs '.'.toNat second whole := by
  rintro (syllable | member)
  · rcases splitSyllable?_bounds syllable with ⟨⟨low, -⟩, -⟩ | ⟨⟨low, -⟩, -⟩
    · exact absurd low (by decide)
    · exact absurd low (by decide)
  · have isFirst : firstMask.testBit '.'.toNat = true :=
      testBit_maskOf.mpr (List.mem_map_of_mem member)
    rw [firstMask_stop] at isFirst
    cases isFirst

/-- A full stop joins with nothing after it. -/
theorem joinChars?_stop (c : Char) : joinChars? '.' c = none := by
  cases joined : joinChars? '.' c with
  | none => rfl
  | some whole =>
      have pairs := splitChar?_eq_some_iff.mp (splitChar?_of_joinChars? joined)
      exact absurd pairs not_pairs_stop

end EventConsole.Url
