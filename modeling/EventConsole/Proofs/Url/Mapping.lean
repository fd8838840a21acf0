import EventConsole.Proofs.Url.Composition
import EventConsole.Url.Domain
import Mathlib.Tactic.ByContra

/-!
Contract: mapping the characters of a domain once is enough.

What a character counts as counts as itself, and so do the characters that are split
off from it or joined with it. The tables are compared as sets of code points, each
set written as one number with a bit for every code point.

Owns: sets of code points as numbers, and the characters that mapping leaves as they
are.
-/

namespace EventConsole.Url

open Text (maskOf rangeMask unionOf rangesMask testBit_maskOf testBit_rangeMask testBit_unionOf
  testBit_part testBit_rangesMask)

/-! ### The code points that tables change -/

variable {code : Nat} {α : Type}

/-- The code points that have entries in blocks. -/
def blocksMask (blocks : List (Nat × List α)) : Nat :=
  unionOf (blocks.map fun block => rangeMask block.1 block.2.length)

def runCodes (run : Text.CaseRun) : List Nat :=
  List.range' run.first ((run.last - run.first) / run.stride + 1) run.stride

def runsMask (runs : List Text.CaseRun) : Nat := unionOf (runs.map fun run => maskOf (runCodes run))

theorem exists_of_entryAt? {blocks : List (Nat × List α)} {entry : α}
    (found : entryAt? blocks code = some entry) :
    ∃ block ∈ blocks, entry ∈ block.2 ∧ block.1 ≤ code ∧ code < block.1 + block.2.length := by
  obtain ⟨⟨first, entries⟩, inBlocks, isEntry⟩ := List.exists_of_findSome?_eq_some found
  dsimp only at isEntry
  split at isEntry
  case isTrue after =>
    obtain ⟨inside, -⟩ := List.getElem?_eq_some_iff.mp isEntry
    exact ⟨_, inBlocks, List.mem_of_getElem? isEntry, after, by dsimp only; omega⟩
  case isFalse => cases isEntry

theorem testBit_blocksMask {blocks : List (Nat × List α)} :
    (blocksMask blocks).testBit code = true ↔ (entryAt? blocks code).isSome = true := by
  constructor
  · intro isBit
    obtain ⟨mask, inMasks, inMask⟩ := testBit_unionOf.mp isBit
    obtain ⟨⟨first, entries⟩, inBlocks, rfl⟩ := List.mem_map.mp inMasks
    obtain ⟨after, before⟩ := testBit_rangeMask.mp inMask
    rw [entryAt?, List.findSome?_isSome_iff]
    refine ⟨_, inBlocks, ?_⟩
    dsimp only at after before ⊢
    rw [if_pos after, List.getElem?_eq_getElem (by omega)]
    rfl
  · intro isEntry
    obtain ⟨entry, found⟩ := Option.isSome_iff_exists.mp isEntry
    obtain ⟨block, inBlocks, -, bounds⟩ := exists_of_entryAt? found
    exact testBit_unionOf.mpr ⟨_, List.mem_map_of_mem inBlocks, testBit_rangeMask.mpr bounds⟩

theorem apply?_eq_some_iff {run : Text.CaseRun} {target : Nat} :
    run.apply? code = some target ↔
      (run.first ≤ code ∧ code ≤ run.last ∧ (code - run.first) % run.stride = 0) ∧
        target = ((code : Int) + run.distance).toNat := by
  unfold Text.CaseRun.apply?
  split
  case isTrue inside => simp [inside, eq_comm]
  case isFalse outside => simp [outside]

theorem mem_runCodes {run : Text.CaseRun} (ordered : run.first ≤ run.last) :
    code ∈ runCodes run ↔
      run.first ≤ code ∧ code ≤ run.last ∧ (code - run.first) % run.stride = 0 := by
  rw [runCodes, List.mem_range']
  constructor
  · rintro ⟨steps, below, rfl⟩
    have most : run.stride * steps ≤ run.stride * ((run.last - run.first) / run.stride) :=
      Nat.mul_le_mul_left _ (Nat.le_of_lt_succ below)
    have whole := Nat.mul_div_le (run.last - run.first) run.stride
    refine ⟨Nat.le_add_right _ _, by omega, ?_⟩
    rw [Nat.add_sub_cancel_left, Nat.mul_mod_right]
  · rintro ⟨first, last, step⟩
    have steps := Nat.div_add_mod (code - run.first) run.stride
    have most : (code - run.first) / run.stride ≤ (run.last - run.first) / run.stride :=
      Nat.div_le_div_right (by omega)
    exact ⟨(code - run.first) / run.stride, by omega, by omega⟩

theorem testBit_runsMask {runs : List Text.CaseRun} (ordered : ∀ run ∈ runs, run.first ≤ run.last) :
    (runsMask runs).testBit code = true ↔ ∃ run ∈ runs, ( run.apply? code).isSome = true := by
  have applies : ∀ run ∈ runs, code ∈ runCodes run ↔ ( run.apply? code).isSome = true := by
    intro run inRuns
    rw [mem_runCodes (ordered run inRuns), Text.CaseRun.apply?]
    split
    case isTrue inside => simp [inside]
    case isFalse outside => simp [outside]
  rw [runsMask, testBit_unionOf]
  constructor
  · rintro ⟨mask, inMasks, inMask⟩
    obtain ⟨run, inRuns, rfl⟩ := List.mem_map.mp inMasks
    exact ⟨run, inRuns, (applies run inRuns).mp (testBit_maskOf.mp inMask)⟩
  · rintro ⟨run, inRuns, found⟩
    exact ⟨_, List.mem_map_of_mem inRuns, testBit_maskOf.mpr ((applies run inRuns).mpr found)⟩

/-! ### Settled characters -/

/-- A character that mapping leaves as it is. -/
def IsSettled (c : Char) : Prop := domainChar c = [c]

/-- The image of a code point in a run. -/
def image (run : Text.CaseRun) (code : Nat) : Nat := ((code : Int) + run.distance).toNat

/-- Code points that the tables of domains speak about. -/
def keyedMask : Nat :=
  unionOf [blocksMask domainSequences, blocksMask domainTargets, runsMask domainRuns]

/-- Code points that the tables of domains change, and the capital letters of ASCII. -/
def movedMask : Nat :=
  unionOf [rangeMask 0x41 26, rangesMask ignoredInDomain, blocksMask domainSequences,
    blocksMask domainTargets, runsMask (domainRuns.filter fun run => run.distance != 0)]

/-- Code points that have a small form. -/
def loweredMask : Nat := unionOf [maskOf [0x130], runsMask Text.lowerRuns]

/-- Code points that stay although they have a small form. -/
def unmovedMask : Nat := runsMask (domainRuns.filter fun run => run.distance == 0)

/-- A set of code points that mapping leaves as they are. -/
def IsSettledMask (mask : Nat) : Prop :=
  mask &&& movedMask = 0 ∧ mask &&& loweredMask &&& unmovedMask = mask &&& loweredMask

instance (mask : Nat) : Decidable (IsSettledMask mask) := inferInstanceAs (Decidable (_ ∧ _))

def sequenceImages : Nat :=
  unionOf (domainSequences.map fun block => unionOf (block.2.map maskOf))

def targetImages : Nat := unionOf (domainTargets.map fun block => maskOf block.2)

def runImages : Nat := unionOf (domainRuns.map fun run => maskOf ((runCodes run).map (image run)))

/-- Small forms count unless the tables of domains say otherwise. -/
def lowerImages : Nat :=
  unionOf (Text.lowerRuns.map fun run =>
    maskOf (((runCodes run).filter fun code => !keyedMask.testBit code).map (image run)))

/-- What characters count as. -/
def imageMask : Nat :=
  unionOf [sequenceImages, targetImages, runImages, lowerImages, maskOf [0x69, 0x307]]

private theorem isSettledMask_imageMask : IsSettledMask imageMask := by
  decide +kernel

/-- What characters are split into and joined to. -/
def partMask : Nat :=
  unionOf [maskOf (pairings.map Pairing.first), maskOf (pairings.map Pairing.second),
    maskOf (pairings.map Pairing.whole), rangeMask firstConsonant 19, rangeMask firstVowel 21,
    rangeMask firstFinal 28, rangeMask firstSyllable (19 * 21 * 28)]

private theorem isSettledMask_partMask : IsSettledMask partMask := by
  decide +kernel

theorem ordered_domainRuns : ∀ run ∈ domainRuns, run.first ≤ run.last := by decide +kernel

private theorem ordered_lowerRuns :
    ∀ run ∈ Text.lowerRuns, run.first ≤ run.last := by decide +kernel

variable {mask : Nat}

/-- A code point of a settled set is not moved, and it has no small form unless it stays. -/
theorem IsSettledMask.not_moved (settled : IsSettledMask mask) (inMask : mask.testBit code = true) :
    movedMask.testBit code = false ∧
      (loweredMask.testBit code = true → unmovedMask.testBit code = true) := by
  constructor
  · have none := congrArg (Nat.testBit · code) settled.1
    simpa [inMask] using none
  · intro lowered
    have same := congrArg (Nat.testBit · code) settled.2
    simpa [inMask, lowered] using same

/-- The tables of domains leave a code point that is not moved to its small form, or keep it. -/
theorem domainCodes?_of_not_moved (notMoved : movedMask.testBit code = false) :
    domainCodes? code = none ∧ unmovedMask.testBit code = false ∨
      domainCodes? code = some [code] := by
  unfold movedMask at notMoved
  have counts : ¬ Text.inRanges ignoredInDomain code = true := by
    intro inside
    have outside := testBit_part notMoved (rangesMask ignoredInDomain) (by simp)
    rw [testBit_rangesMask inside] at outside
    cases outside
  have noSequence : entryAt? domainSequences code = none := by
    have outside := testBit_part notMoved (blocksMask domainSequences) (by simp)
    rwa [Bool.eq_false_iff, ne_eq, testBit_blocksMask, Option.not_isSome_iff_eq_none] at outside
  have noTarget : entryAt? domainTargets code = none := by
    have outside := testBit_part notMoved (blocksMask domainTargets) (by simp)
    rwa [Bool.eq_false_iff, ne_eq, testBit_blocksMask, Option.not_isSome_iff_eq_none] at outside
  have noRun : ¬ ∃ run ∈ domainRuns.filter (fun run => run.distance != 0),
      ( run.apply? code).isSome = true := by
    have outside := testBit_part notMoved
      (runsMask (domainRuns.filter fun run => run.distance != 0)) (by simp)
    rwa [Bool.eq_false_iff, ne_eq, testBit_runsMask fun run isRun =>
      ordered_domainRuns run (List.mem_filter.mp isRun).1] at outside
  rw [domainCodes?, if_neg counts, noSequence, noTarget]
  dsimp only
  cases found : domainRuns.findSome? fun run => run.apply? code with
  | none =>
      refine .inl ⟨rfl, Bool.eq_false_iff.mpr fun inUnmoved => ?_⟩
      obtain ⟨run, isRun, applies⟩ := (testBit_runsMask fun run isRun =>
        ordered_domainRuns run (List.mem_filter.mp isRun).1).mp inUnmoved
      rw [List.findSome?_eq_none_iff.mp found run (List.mem_filter.mp isRun).1] at applies
      cases applies
  | some target =>
      obtain ⟨run, isRun, applies⟩ := List.exists_of_findSome?_eq_some found
      have stays : run.distance = 0 := by
        by_contra moves
        exact noRun ⟨run, List.mem_filter.mpr ⟨isRun, by simpa using moves⟩, by rw [applies]; rfl⟩
      obtain ⟨-, isTarget⟩ := apply?_eq_some_iff.mp applies
      rw [stays, Int.add_zero, Int.toNat_natCast] at isTarget
      exact .inr (by rw [isTarget]; rfl)

private theorem lowerChar_of_not_lowered {c : Char} (beyond : ¬ c.toNat < 128)
    (notLowered : loweredMask.testBit c.toNat = false) : Text.lowerChar c = [c] := by
  unfold loweredMask at notLowered
  have noDotted : c.toNat ≠ 0x130 := by
    have outside := testBit_part notLowered (maskOf [0x130]) (by simp)
    rwa [Bool.eq_false_iff, ne_eq, testBit_maskOf, List.mem_singleton] at outside
  have noRun : Text.lowerRuns.findSome? (fun run => run.apply? c.toNat) = none := by
    have outside := testBit_part notLowered (runsMask Text.lowerRuns) (by simp)
    rw [Bool.eq_false_iff, ne_eq, testBit_runsMask ordered_lowerRuns] at outside
    refine List.findSome?_eq_none_iff.mpr fun run isRun => ?_
    rw [← Option.not_isSome_iff_eq_none]
    exact fun applies => outside ⟨run, isRun, applies⟩
  rw [Text.lowerChar, if_neg beyond, if_neg noDotted, Text.mapByRuns, noRun]

private theorem toLower_of_ascii (ascii : code < 128) :
    (Char.ofNat code).toLower.toNat < 128 ∧
      (Char.ofNat code).toLower.toLower = (Char.ofNat code).toLower ∧
      (code < 0x41 ∨ 0x41 + 26 ≤ code → (Char.ofNat code).toLower = Char.ofNat code) := by
  have all : ∀ code : Fin 128, (Char.ofNat code.val).toLower.toNat < 128 ∧
      (Char.ofNat code.val).toLower.toLower = (Char.ofNat code.val).toLower ∧
      (code.val < 0x41 ∨ 0x41 + 26 ≤ code.val →
        (Char.ofNat code.val).toLower = Char.ofNat code.val) := by
    decide
  exact all ⟨code, ascii⟩

private theorem isSettled_of_testBit (settled : IsSettledMask mask)
    (inMask : mask.testBit code = true) : IsSettled (Char.ofNat code) := by
  by_cases valid : code.isValidChar
  case neg =>
    have isNull : Char.ofNat code = Char.ofNat 0 := by
      rw [Char.ofNat, dif_neg valid]
      rfl
    rw [isNull]
    rfl
  case pos =>
    have isCode : (Char.ofNat code).toNat = code := Text.Utf8.toNat_ofNat_char valid
    obtain ⟨notMoved, staysSmall⟩ := settled.not_moved inMask
    rw [IsSettled, domainChar, isCode]
    split
    case isTrue ascii =>
      have notCapital : code < 0x41 ∨ 0x41 + 26 ≤ code := by
        by_contra inside
        have inMoved : movedMask.testBit code = true :=
          testBit_unionOf.mpr ⟨_, List.mem_cons_self, testBit_rangeMask.mpr (by omega)⟩
        rw [notMoved] at inMoved
        cases inMoved
      rw [(toLower_of_ascii ascii).2.2 notCapital]
    case isFalse beyond =>
      rcases domainCodes?_of_not_moved notMoved with ⟨noEntry, moves⟩ | kept
      · rw [noEntry]
        refine lowerChar_of_not_lowered (by rwa [isCode]) ?_
        rw [isCode]
        cases lowered : loweredMask.testBit code with
        | false => rfl
        | true =>
            rw [staysSmall lowered] at moves
            cases moves
      · rw [kept]
        rfl

/-! ### What characters count as -/

theorem isSettled_of_image (part : Nat) (isPart : part ∈ [sequenceImages, targetImages, runImages,
      lowerImages, maskOf [0x69, 0x307]]) (inPart : part.testBit code = true) :
    IsSettled (Char.ofNat code) :=
  isSettled_of_testBit isSettledMask_imageMask (testBit_unionOf.mpr ⟨part, isPart, inPart⟩)

private theorem isSettled_of_mem_domainCodes? {codes : List Nat} {target : Nat}
    (counts : domainCodes? code = some codes) (isTarget : target ∈ codes) :
    IsSettled (Char.ofNat target) := by
  rw [domainCodes?] at counts
  split at counts
  case isTrue =>
    cases counts
    cases isTarget
  case isFalse =>
    split at counts
    case h_1 sequence found =>
      cases counts
      obtain ⟨block, inBlocks, isEntry, -⟩ := exists_of_entryAt? found
      refine isSettled_of_image sequenceImages (by simp) ?_
      refine testBit_unionOf.mpr ⟨_, List.mem_map_of_mem inBlocks, ?_⟩
      exact testBit_unionOf.mpr ⟨_, List.mem_map_of_mem isEntry, testBit_maskOf.mpr isTarget⟩
    case h_2 =>
      split at counts
      case h_1 single found =>
        cases counts
        obtain rfl := List.mem_singleton.mp isTarget
        obtain ⟨block, inBlocks, isEntry, -⟩ := exists_of_entryAt? found
        refine isSettled_of_image targetImages (by simp) ?_
        exact testBit_unionOf.mpr ⟨_, List.mem_map_of_mem inBlocks, testBit_maskOf.mpr isEntry⟩
      case h_2 =>
        obtain ⟨single, found, rfl⟩ := Option.map_eq_some_iff.mp counts
        obtain rfl := List.mem_singleton.mp isTarget
        obtain ⟨run, inRuns, applies⟩ := List.exists_of_findSome?_eq_some found
        obtain ⟨inRun, rfl⟩ := apply?_eq_some_iff.mp applies
        refine isSettled_of_image runImages (by simp) ?_
        refine testBit_unionOf.mpr ⟨_, List.mem_map_of_mem inRuns, testBit_maskOf.mpr ?_⟩
        exact List.mem_map_of_mem ((mem_runCodes (ordered_domainRuns run inRuns)).mpr inRun)

/-- A code point that the tables of domains speak about has an entry there. -/
theorem domainCodes?_of_keyed (keyed : keyedMask.testBit code = true) :
    (domainCodes? code).isSome = true := by
  obtain ⟨mask, isPart, inPart⟩ := testBit_unionOf.mp keyed
  rw [domainCodes?]
  split
  case isTrue => rfl
  case isFalse =>
    split
    case h_1 => rfl
    case h_2 noSequence =>
      split
      case h_1 => rfl
      case h_2 noTarget =>
        simp only [List.mem_cons, List.not_mem_nil, or_false] at isPart
        rcases isPart with isSequences | isTargets | isRuns
        · rw [isSequences, testBit_blocksMask, noSequence] at inPart
          cases inPart
        · rw [isTargets, testBit_blocksMask, noTarget] at inPart
          cases inPart
        · rw [isRuns, testBit_runsMask ordered_domainRuns] at inPart
          rwa [Option.isSome_map, List.findSome?_isSome_iff]

/-- Small forms of characters that the tables of domains do not speak about. -/
theorem isSettled_of_mem_lowerChar {c d : Char} (beyond : ¬ c.toNat < 128)
    (noEntry : domainCodes? c.toNat = none) (member : d ∈ Text.lowerChar c) : IsSettled d := by
  have counts : domainChar c = Text.lowerChar c := by rw [domainChar, if_neg beyond, noEntry]
  have notKeyed : keyedMask.testBit c.toNat = false := by
    rw [Bool.eq_false_iff]
    intro keyed
    have hasEntry := domainCodes?_of_keyed keyed
    rw [noEntry] at hasEntry
    cases hasEntry
  rw [Text.lowerChar, if_neg beyond] at member
  split at member
  case isTrue =>
    rcases List.mem_cons.mp member with rfl | member
    · exact isSettled_of_image (maskOf [0x69, 0x307]) (by simp)
        (testBit_maskOf.mpr (by simp))
    · rw [List.mem_singleton.mp member]
      exact isSettled_of_image (maskOf [0x69, 0x307]) (by simp)
        (testBit_maskOf.mpr (by simp))
  case isFalse noDotted =>
    rw [List.mem_singleton.mp member]
    cases found : Text.lowerRuns.findSome? fun run => run.apply? c.toNat with
    | none =>
        have stays : Text.mapByRuns Text.lowerRuns c = c := by rw [Text.mapByRuns, found]
        rw [stays, IsSettled, counts, Text.lowerChar, if_neg beyond, if_neg noDotted, stays]
    | some target =>
        obtain ⟨run, inRuns, applies⟩ := List.exists_of_findSome?_eq_some found
        obtain ⟨inRun, rfl⟩ := apply?_eq_some_iff.mp applies
        rw [Text.mapByRuns, found]
        refine isSettled_of_image lowerImages (by simp) ?_
        refine testBit_unionOf.mpr ⟨_, List.mem_map_of_mem inRuns, testBit_maskOf.mpr ?_⟩
        refine List.mem_map_of_mem (List.mem_filter.mpr ⟨?_, by rw [notKeyed]; rfl⟩)
        exact (mem_runCodes (ordered_lowerRuns run inRuns)).mpr inRun

/-- What a character counts as counts as itself. -/
theorem isSettled_of_mem_domainChar {c d : Char} (member : d ∈ domainChar c) : IsSettled d := by
  rw [domainChar] at member
  split at member
  case isTrue ascii =>
    have lower := toLower_of_ascii ascii
    rw [Char.ofNat_toNat] at lower
    rw [List.mem_singleton.mp member, IsSettled, domainChar, if_pos lower.1, lower.2.1]
  case isFalse beyond =>
    split at member
    case h_1 codes counts =>
      obtain ⟨target, isTarget, rfl⟩ := List.mem_map.mp member
      exact isSettled_of_mem_domainCodes? counts isTarget
    case h_2 noEntry => exact isSettled_of_mem_lowerChar beyond noEntry member

/-! ### What characters are split into and joined to -/

theorem isSettled_of_part (part : Nat) (isPart : part ∈ [maskOf (pairings.map Pairing.first),
      maskOf (pairings.map Pairing.second), maskOf (pairings.map Pairing.whole),
      rangeMask firstConsonant 19, rangeMask firstVowel 21, rangeMask firstFinal 28,
      rangeMask firstSyllable (19 * 21 * 28)]) (inPart : part.testBit code = true) :
    IsSettled (Char.ofNat code) :=
  isSettled_of_testBit isSettledMask_partMask (testBit_unionOf.mpr ⟨part, isPart, inPart⟩)

private theorem isSettled_of_splitSyllable? {first second : Nat}
    (split : splitSyllable? code = some (first, second)) :
    IsSettled (Char.ofNat first) ∧ IsSettled (Char.ofNat second) := by
  rcases splitSyllable?_bounds split with ⟨isConsonant, isVowel⟩ | ⟨isSyllable, isFinal⟩
  · exact ⟨isSettled_of_part (rangeMask firstConsonant 19) (by simp)
        (testBit_rangeMask.mpr isConsonant),
      isSettled_of_part (rangeMask firstVowel 21) (by simp) (testBit_rangeMask.mpr isVowel)⟩
  · exact ⟨isSettled_of_part (rangeMask firstSyllable (19 * 21 * 28)) (by simp)
        (testBit_rangeMask.mpr isSyllable),
      isSettled_of_part (rangeMask firstFinal 28) (by simp) (testBit_rangeMask.mpr isFinal)⟩

theorem isSettled_of_splitChar? {c first second : Char}
    (split : splitChar? c = some (first, second)) : IsSettled first ∧ IsSettled second := by
  rw [splitChar?] at split
  obtain ⟨⟨firstCode, secondCode⟩, parts, same⟩ := Option.map_eq_some_iff.mp split
  cases same
  split at parts
  case isTrue => cases parts
  case isFalse =>
    split at parts
    case h_1 syllable =>
      cases parts
      exact isSettled_of_splitSyllable? syllable
    case h_2 =>
      obtain ⟨pairing, found, same⟩ := Option.map_eq_some_iff.mp parts
      cases same
      have member := List.mem_of_find?_eq_some found
      exact ⟨isSettled_of_part (maskOf (pairings.map Pairing.first)) (by simp)
          (testBit_maskOf.mpr (List.mem_map_of_mem member)),
        isSettled_of_part (maskOf (pairings.map Pairing.second)) (by simp)
          (testBit_maskOf.mpr (List.mem_map_of_mem member))⟩

theorem isSettled_of_joinChars? {first second whole : Char}
    (joined : joinChars? first second = some whole) : IsSettled whole := by
  rw [joinChars?] at joined
  obtain ⟨code, found, rfl⟩ := Option.map_eq_some_iff.mp joined
  split at found
  case isTrue => cases found
  case isFalse =>
    split at found
    case h_1 syllable =>
      cases found
      exact isSettled_of_part (rangeMask firstSyllable (19 * 21 * 28)) (by simp)
        (testBit_rangeMask.mpr (joinSyllable?_bounds syllable))
    case h_2 =>
      obtain ⟨pairing, isPairing, rfl⟩ := Option.map_eq_some_iff.mp found
      exact isSettled_of_part (maskOf (pairings.map Pairing.whole)) (by simp)
        (testBit_maskOf.mpr (List.mem_map_of_mem (List.mem_of_find?_eq_some isPairing)))

end EventConsole.Url
