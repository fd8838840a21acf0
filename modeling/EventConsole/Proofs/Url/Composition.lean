import EventConsole.Proofs.Text.Pieces
import EventConsole.Proofs.Url.Pairs
import Mathlib.Data.List.Chain

/-!
Contract: composing a text twice is composing it once.

Joining undoes what splitting did to a text whose marks are in order, and the other way
round. A full stop keeps the texts before and after it apart.

Owns: split texts, the order of marks, and composed texts.

Does not own: the pairs that characters stand for (`Pairs`).
-/

namespace EventConsole.Url

/-! ### Split texts -/

/-- A text with all characters split, its marks in any order. -/
def splitText (text : List Char) : List Char := text.flatMap (splitChar 2)

/-- A text of characters that do not split. -/
def IsSplit (text : List Char) : Prop := ∀ c ∈ text, splitChar? c = none

variable {text : List Char} {c a b : Char}

theorem splitChar_of_none (depth : Nat) (whole : splitChar? c = none) :
    splitChar depth c = [c] := by
  cases depth with
  | zero => rfl
  | succ depth => rw [splitChar, whole]

theorem splitText_cons (c : Char) (rest : List Char) :
    splitText (c :: rest) = splitChar 2 c ++ splitText rest := List.flatMap_cons

private theorem splitText_append (text other : List Char) :
    splitText (text ++ other) = splitText text ++ splitText other := List.flatMap_append

theorem splitText_of_isSplit (isSplit : IsSplit text) : splitText text = text := by
  induction text with
  | nil => rfl
  | cons c rest ih =>
      obtain ⟨whole, isSplitRest⟩ := List.forall_mem_cons.mp isSplit
      rw [splitText_cons, splitChar_of_none 2 whole, ih isSplitRest, List.singleton_append]

/-- A character that was joined is split into its letter and the mark. -/
theorem splitChar_two_of_split (split : splitChar? c = some (a, b)) :
    splitChar 2 c = splitChar 2 a ++ [b] := by
  have once : splitChar 2 c = splitChar 1 a ++ [b] := by rw [splitChar, split]
  rw [once]
  cases again : splitChar? a with
  | none => rw [splitChar_of_none 1 again, splitChar_of_none 2 again]
  | some parts =>
      obtain ⟨x, y⟩ := parts
      have innermost := splitChar?_first split again
      rw [splitChar, again, splitChar, again]
      dsimp only
      rw [splitChar_of_none 0 innermost, splitChar_of_none 1 innermost]

private theorem isSplit_splitChar (c : Char) : IsSplit (splitChar 2 c) := by
  cases split : splitChar? c with
  | none =>
      rw [splitChar_of_none 2 split]
      simpa [IsSplit] using split
  | some parts =>
      obtain ⟨a, b⟩ := parts
      have second : IsSplit [b] := by simpa [IsSplit] using splitChar?_second split
      rw [splitChar_two_of_split split]
      refine List.forall_mem_append.mpr ⟨?_, second⟩
      cases again : splitChar? a with
      | none =>
          rw [splitChar_of_none 2 again]
          simpa [IsSplit] using again
      | some inner =>
          obtain ⟨x, y⟩ := inner
          rw [splitChar_two_of_split again, splitChar_of_none 2 (splitChar?_first split again)]
          simpa [IsSplit] using ⟨splitChar?_first split again, splitChar?_second again⟩

private theorem isSplit_splitText (text : List Char) : IsSplit (splitText text) := by
  intro c member
  obtain ⟨source, -, inSource⟩ := List.mem_flatMap.mp member
  exact isSplit_splitChar source c inSource

/-! ### Marks in order -/

/-- Marks in the order of their classes. -/
def orderMarks (text : List Char) : List Char := text.foldr placeMark []

/-- Whether a character may stand before another: no mark stands before one of a lower class. -/
def MayPrecede (a b : Char) : Prop := ¬ (0 < combiningClass b ∧ combiningClass b < combiningClass a)

def IsOrdered (text : List Char) : Prop := text.IsChain MayPrecede

theorem decomposed_eq (text : List Char) : decomposed text = orderMarks (splitText text) := rfl

private theorem mem_placeMark : b ∈ placeMark c text ↔ b = c ∨ b ∈ text := by
  induction text with
  | nil => simp [placeMark]
  | cons next rest ih =>
      rw [placeMark]
      split
      case isTrue =>
        rw [List.mem_cons, ih, List.mem_cons]
        exact or_left_comm
      case isFalse => exact List.mem_cons

private theorem mem_orderMarks : b ∈ orderMarks text ↔ b ∈ text := by
  induction text with
  | nil => rfl
  | cons c rest ih =>
      rw [orderMarks, List.foldr_cons, ← orderMarks, mem_placeMark, ih, List.mem_cons]

theorem placeMark_of_passes {next : Char}
    (passes : 0 < combiningClass next ∧ combiningClass next < combiningClass c) (rest : List Char) :
    placeMark c (next :: rest) = next :: placeMark c rest := if_pos passes

theorem placeMark_of_mayPrecede {next : Char} (stays : MayPrecede c next) (rest : List Char) :
    placeMark c (next :: rest) = c :: next :: rest := if_neg stays

private theorem head?_placeMark (isHead : b ∈ (placeMark c text).head?) :
    b = c ∨ b ∈ text.head? := by
  cases text with
  | nil => exact .inl (Option.some.inj isHead).symm
  | cons next rest =>
      rw [placeMark] at isHead
      split at isHead
      case isTrue => exact .inr isHead
      case isFalse => exact .inl (Option.some.inj isHead).symm

private theorem isOrdered_placeMark (ordered : IsOrdered text) : IsOrdered (placeMark c text) := by
  induction text with
  | nil => exact List.isChain_singleton c
  | cons next rest ih =>
      obtain ⟨first, orderedRest⟩ := List.isChain_cons.mp ordered
      by_cases passes : 0 < combiningClass next ∧ combiningClass next < combiningClass c
      case pos =>
        rw [placeMark_of_passes passes]
        have beforeMark : MayPrecede next c := fun passesBack => by omega
        refine List.isChain_cons.mpr ⟨fun head isHead => ?_, ih orderedRest⟩
        rcases head?_placeMark isHead with rfl | isHead
        · exact beforeMark
        · exact first head isHead
      case neg =>
        rw [placeMark_of_mayPrecede passes]
        exact List.isChain_cons_cons.mpr ⟨passes, ordered⟩

private theorem isOrdered_orderMarks (text : List Char) : IsOrdered (orderMarks text) := by
  induction text with
  | nil => exact List.IsChain.nil
  | cons c rest ih => exact isOrdered_placeMark ih

theorem orderMarks_of_isOrdered (ordered : IsOrdered text) : orderMarks text = text := by
  induction text with
  | nil => rfl
  | cons c rest ih =>
      obtain ⟨first, orderedRest⟩ := List.isChain_cons.mp ordered
      rw [orderMarks, List.foldr_cons, ← orderMarks, ih orderedRest]
      cases rest with
      | nil => rfl
      | cons next others => exact placeMark_of_mayPrecede (first next rfl) others

/-- Marks of different classes may be placed in either order. -/
theorem placeMark_comm {mark : Char} (isMark : 0 < combiningClass mark)
    (lower : combiningClass mark < combiningClass c) (text : List Char) :
    placeMark c (placeMark mark text) = placeMark mark (placeMark c text) := by
  have stays : MayPrecede mark c := fun passes => by omega
  induction text with
  | nil =>
      rw [placeMark, placeMark, placeMark_of_passes ⟨isMark, lower⟩, placeMark_of_mayPrecede stays]
      rfl
  | cons next rest ih =>
      by_cases passes : 0 < combiningClass next ∧ combiningClass next < combiningClass c
      case pos =>
        by_cases passesMark : combiningClass next < combiningClass mark
        case pos =>
          rw [placeMark_of_passes ⟨passes.1, passesMark⟩, placeMark_of_passes passes, ih,
            placeMark_of_passes passes, placeMark_of_passes ⟨passes.1, passesMark⟩]
        case neg =>
          have before : MayPrecede mark next := fun passes => passesMark passes.2
          rw [placeMark_of_mayPrecede before, placeMark_of_passes ⟨isMark, lower⟩,
            placeMark_of_passes passes, placeMark_of_mayPrecede before]
      case neg =>
        have before : MayPrecede mark next := fun passesMark => passes ⟨passesMark.1, by omega⟩
        rw [placeMark_of_mayPrecede before, placeMark_of_passes ⟨isMark, lower⟩,
          placeMark_of_mayPrecede passes, placeMark_of_mayPrecede stays]

private theorem orderMarks_append (text other : List Char) :
    orderMarks (text ++ other) = text.foldr placeMark (orderMarks other) :=
  List.foldr_append

theorem orderMarks_congr {other more : List Char} (same : orderMarks other = orderMarks more)
    (text : List Char) : orderMarks (text ++ other) = orderMarks (text ++ more) := by
  rw [orderMarks_append, orderMarks_append, same]

/-- A mark may be placed before or behind marks of lower classes. -/
theorem orderMarks_past {passed : List Char}
    (lower : ∀ mark ∈ passed, 0 < combiningClass mark ∧ combiningClass mark < combiningClass c)
    (rest : List Char) : orderMarks (c :: (passed ++ rest)) = orderMarks (passed ++ c :: rest) := by
  induction passed with
  | nil => rfl
  | cons mark others ih =>
      obtain ⟨lowerMark, lowerOthers⟩ := List.forall_mem_cons.mp lower
      calc orderMarks (c :: (mark :: others ++ rest))
          = placeMark c (placeMark mark (orderMarks (others ++ rest))) := rfl
        _ = placeMark mark (orderMarks (c :: (others ++ rest))) :=
            placeMark_comm lowerMark.1 lowerMark.2 _
        _ = orderMarks (mark :: others ++ c :: rest) := by rw [ih lowerOthers]; rfl

/-! ### Joining -/

/-- Marks that were passed, last first: none is of a higher class than one after it. -/
structure IsPassed (passed : List Char) : Prop where
  isSplit : IsSplit passed
  marks : ∀ mark ∈ passed, 0 < combiningClass mark
  descending : passed.Pairwise fun later earlier => combiningClass earlier ≤ combiningClass later

/-- Marks that were passed are of no higher class than what comes next, unless that is a
letter. -/
def IsBelow (passed rest : List Char) : Prop :=
  ∀ c ∈ rest.head?, 0 < combiningClass c → ∀ mark ∈ passed, combiningClass mark ≤ combiningClass c

variable {letter : Char} {passed rest : List Char}

theorem isPassed_nil : IsPassed [] where
  isSplit := by simp [IsSplit]
  marks := by simp
  descending := List.Pairwise.nil

theorem IsPassed.cons (isPassed : IsPassed passed) (whole : splitChar? c = none)
    (isMark : 0 < combiningClass c)
    (above : ∀ mark ∈ passed, combiningClass mark ≤ combiningClass c) : IsPassed (c :: passed) where
  isSplit := List.forall_mem_cons.mpr ⟨whole, isPassed.isSplit⟩
  marks := List.forall_mem_cons.mpr ⟨isMark, isPassed.marks⟩
  descending := List.pairwise_cons.mpr ⟨above, isPassed.descending⟩

/-- A character that reaches the letter is of a higher class than all marks that it passes. -/
theorem IsPassed.lower (isPassed : IsPassed passed)
    (reaches : ∀ last ∈ passed.head?, combiningClass last < combiningClass c) :
    ∀ mark ∈ passed, 0 < combiningClass mark ∧ combiningClass mark < combiningClass c := by
  cases passed with
  | nil => simp
  | cons last others =>
      have lastLower := reaches last rfl
      have others := (List.pairwise_cons.mp isPassed.descending).1
      refine fun mark member => ⟨isPassed.marks mark member, ?_⟩
      rcases List.mem_cons.mp member with rfl | inOthers
      · exact lastLower
      · exact Nat.lt_of_le_of_lt (others mark inOthers) lastLower

/-- What comes after a character of no lower class than the marks passed is of none either. -/
theorem isBelow_of_isOrdered (ordered : IsOrdered (c :: rest))
    (above : ∀ mark ∈ passed, combiningClass mark ≤ combiningClass c) : IsBelow passed rest := by
  intro next isNext isMark mark member
  have mayPrecede := (List.isChain_cons.mp ordered).1 next isNext
  have notLower : combiningClass c ≤ combiningClass next := by
    by_contra lower
    exact mayPrecede ⟨isMark, Nat.not_le.mp lower⟩
  exact Nat.le_trans (above mark member) notLower

theorem joinAfter_cons (letter c : Char) (passed rest : List Char) :
    joinAfter letter passed (c :: rest) =
      match if passed.head?.all (fun last => combiningClass last < combiningClass c) then
          joinChars? letter c else none with
      | some joined => joinAfter joined passed rest
      | none =>
          if combiningClass c = 0 then letter :: passed.reverse ++ joinAfter c [] rest
          else joinAfter letter (c :: passed) rest := by
  cases passed with
  | nil => rfl
  | cons last others => rfl

/-- The ways in which the next character is joined, set apart as a letter, or passed. -/
theorem joinAfter_cases (letter c : Char) (passed rest : List Char) :
    (∃ joined, joinChars? letter c = some joined ∧
        (∀ last ∈ passed.head?, combiningClass last < combiningClass c) ∧
        joinAfter letter passed (c :: rest) = joinAfter joined passed rest) ∨
      (combiningClass c = 0 ∧
        joinAfter letter passed (c :: rest) = letter :: passed.reverse ++ joinAfter c [] rest) ∨
      (0 < combiningClass c ∧
        joinAfter letter passed (c :: rest) = joinAfter letter (c :: passed) rest) := by
  rw [joinAfter_cons]
  split
  case h_1 joined found =>
    split at found
    case isTrue reaches =>
      refine .inl ⟨joined, found, fun last isLast => ?_, rfl⟩
      rw [Option.mem_def.mp isLast] at reaches
      simpa using reaches
    case isFalse => cases found
  case h_2 =>
    split
    case isTrue isLetter => exact .inr (.inl ⟨isLetter, rfl⟩)
    case isFalse isMark => exact .inr (.inr ⟨Nat.pos_of_ne_zero isMark, rfl⟩)

/-- Joining a text with its marks in order loses nothing: splitting it gives the text back. -/
theorem orderMarks_splitText_joinAfter (isPassed : IsPassed passed) (below : IsBelow passed rest)
    (isSplit : IsSplit rest) (ordered : IsOrdered rest) :
    orderMarks (splitText (joinAfter letter passed rest)) =
      orderMarks (splitChar 2 letter ++ (passed.reverse ++ rest)) := by
  induction rest generalizing letter passed with
  | nil =>
      have same : splitText (joinAfter letter passed []) =
          splitChar 2 letter ++ passed.reverse := by
        have isSplitPassed : IsSplit passed.reverse :=
          fun c member => isPassed.isSplit c (List.mem_reverse.mp member)
        rw [joinAfter, splitText_cons, splitText_of_isSplit isSplitPassed]
      rw [same, List.append_nil]
  | cons c rest ih =>
      obtain ⟨whole, isSplitRest⟩ := List.forall_mem_cons.mp isSplit
      have orderedRest := (List.isChain_cons.mp ordered).2
      rcases joinAfter_cases letter c passed rest with
        ⟨joined, isJoined, reaches, step⟩ | ⟨isLetter, step⟩ | ⟨isMark, step⟩
      · have lower := isPassed.lower reaches
        have belowRest := isBelow_of_isOrdered ordered fun mark member =>
          Nat.le_of_lt (lower mark member).2
        rw [step, ih isPassed belowRest isSplitRest orderedRest,
          splitChar_two_of_split (splitChar?_of_joinChars? isJoined), List.append_assoc]
        refine orderMarks_congr ?_ _
        refine orderMarks_past (fun mark member => ?_) rest
        exact lower mark (List.mem_reverse.mp member)
      · have isSplitPassed : IsSplit passed.reverse :=
          fun c member => isPassed.isSplit c (List.mem_reverse.mp member)
        have parts : splitText (letter :: passed.reverse ++ joinAfter c [] rest) =
            splitChar 2 letter ++ (passed.reverse ++ splitText (joinAfter c [] rest)) := by
          rw [splitText_append, splitText_cons, splitText_of_isSplit isSplitPassed,
            List.append_assoc]
        rw [step, parts]
        refine orderMarks_congr (orderMarks_congr ?_ _) _
        rw [ih isPassed_nil (by simp [IsBelow]) isSplitRest orderedRest, splitChar_of_none 2 whole]
        rfl
      · have above := below c rfl isMark
        have belowRest : IsBelow (c :: passed) rest :=
          isBelow_of_isOrdered ordered (List.forall_mem_cons.mpr ⟨Nat.le_refl _, above⟩)
        rw [step, ih (isPassed.cons whole isMark above) belowRest isSplitRest orderedRest]
        simp

private theorem orderMarks_splitText_joinAll (isSplit : IsSplit text) (ordered : IsOrdered text) :
    orderMarks (splitText (joinAll text)) = text := by
  induction text with
  | nil => rfl
  | cons c rest ih =>
      obtain ⟨whole, isSplitRest⟩ := List.forall_mem_cons.mp isSplit
      have orderedRest := (List.isChain_cons.mp ordered).2
      have settled : orderMarks (c :: rest) = c :: rest := orderMarks_of_isOrdered ordered
      rw [joinAll]
      split
      case isTrue =>
        rw [orderMarks_splitText_joinAfter isPassed_nil (by simp [IsBelow]) isSplitRest orderedRest,
          splitChar_of_none 2 whole]
        exact settled
      case isFalse =>
        rw [splitText_cons, splitChar_of_none 2 whole, List.singleton_append]
        calc orderMarks (c :: splitText (joinAll rest))
            = placeMark c (orderMarks (splitText (joinAll rest))) := rfl
          _ = placeMark c (orderMarks rest) := by
              rw [ih isSplitRest orderedRest, orderMarks_of_isOrdered orderedRest]
          _ = c :: rest := settled

/-- Splitting a composed text gives what it was composed of. -/
theorem decomposed_composed (text : List Char) : decomposed (composed text) = decomposed text := by
  have isSplit : IsSplit (decomposed text) :=
    fun c member => isSplit_splitText text c (mem_orderMarks.mp member)
  rw [decomposed_eq, composed,
    orderMarks_splitText_joinAll isSplit (isOrdered_orderMarks (splitText text))]

/-- Composing twice is composing once. -/
theorem composed_composed (text : List Char) : composed (composed text) = composed text := by
  rw [composed, decomposed_composed, composed]

/-! ### ASCII and full stops -/

theorem combiningClass_of_ascii (ascii : c.toNat < 128) : combiningClass c = 0 := by
  have runs : ∃ low high order rest, combiningClassRuns = (low, high, order) :: rest ∧ 128 ≤ low :=
    ⟨_, _, _, _, rfl, by decide⟩
  obtain ⟨low, high, order, rest, isRuns, beyond⟩ := runs
  rw [combiningClass, isRuns, classInRuns, if_pos (by omega)]

private theorem splitChar?_of_ascii (ascii : c.toNat < 128) : splitChar? c = none := by
  rw [splitChar?]
  dsimp only
  rw [if_pos ascii]
  rfl

private theorem joinChars?_of_ascii (letter : Char) (ascii : c.toNat < 128) :
    joinChars? letter c = none := by
  rw [joinChars?, if_pos ascii]
  rfl

private theorem joinAfter_of_ascii (ascii : ∀ c ∈ rest, c.toNat < 128) :
    joinAfter letter [] rest = letter :: rest := by
  induction rest generalizing letter with
  | nil => rfl
  | cons c others ih =>
      obtain ⟨asciiChar, asciiOthers⟩ := List.forall_mem_cons.mp ascii
      rw [joinAfter_cons, joinChars?_of_ascii letter asciiChar, ite_self]
      dsimp only
      rw [if_pos (combiningClass_of_ascii asciiChar), ih asciiOthers]
      rfl

/-- ASCII texts are composed. -/
theorem composed_of_ascii (ascii : ∀ c ∈ text, c.toNat < 128) : composed text = text := by
  have isSplit : IsSplit text := fun c member => splitChar?_of_ascii (ascii c member)
  have ordered : orderMarks text = text := by
    refine orderMarks_of_isOrdered (List.Pairwise.isChain ?_)
    refine List.pairwise_of_forall_mem_list fun a _ b inText passes => ?_
    rw [combiningClass_of_ascii (ascii b inText)] at passes
    exact absurd passes.1 (Nat.lt_irrefl 0)
  rw [composed, decomposed_eq, splitText_of_isSplit isSplit, ordered]
  cases text with
  | nil => rfl
  | cons c rest =>
      obtain ⟨asciiChar, asciiRest⟩ := List.forall_mem_cons.mp ascii
      rw [joinAll, if_pos (combiningClass_of_ascii asciiChar), joinAfter_of_ascii asciiRest]

/-! #### Full stops -/

theorem placeMark_stop (c : Char) (text other : List Char) :
    placeMark c (text ++ '.' :: other) = placeMark c text ++ '.' :: other := by
  induction text with
  | nil => exact placeMark_of_mayPrecede (fun passes => absurd passes.1 (by decide)) other
  | cons next rest ih =>
      rw [List.cons_append, placeMark, placeMark, ih]
      split
      · rfl
      · rfl

private theorem orderMarks_stop (text other : List Char) :
    orderMarks (text ++ '.' :: other) = orderMarks text ++ '.' :: orderMarks other := by
  have stop : orderMarks ('.' :: other) = '.' :: orderMarks other := by
    rw [orderMarks, List.foldr_cons, ← orderMarks]
    cases orderMarks other with
    | nil => rfl
    | cons next rest =>
        have noClass : combiningClass '.' = 0 := by decide
        exact placeMark_of_mayPrecede (fun passes => by omega) rest
  induction text with
  | nil => exact stop
  | cons c rest ih =>
      calc orderMarks (c :: rest ++ '.' :: other)
          = placeMark c (orderMarks (rest ++ '.' :: other)) := rfl
        _ = placeMark c (orderMarks rest) ++ '.' :: orderMarks other := by
            rw [ih, placeMark_stop]

private theorem joinAfter_stop (passed other : List Char) :
    joinAfter '.' passed other = '.' :: (passed.reverse ++ joinAll other) := by
  induction other generalizing passed with
  | nil => simp [joinAfter, joinAll]
  | cons c rest ih =>
      rw [joinAfter_cons, joinChars?_stop, ite_self, joinAll]
      dsimp only
      split
      · rfl
      · rw [ih]
        simp

private theorem joinAfter_append_stop (letter : Char) (passed text other : List Char) :
    joinAfter letter passed (text ++ '.' :: other) =
      joinAfter letter passed text ++ '.' :: joinAll other := by
  induction text generalizing letter passed with
  | nil =>
      rw [List.nil_append, joinAfter_cons, joinChars?_of_ascii letter (by decide), ite_self]
      dsimp only
      rw [if_pos (by decide), joinAfter_stop]
      rfl
  | cons c rest ih =>
      rw [List.cons_append, joinAfter_cons, joinAfter_cons]
      split
      · exact ih _ _
      · split
        · rw [ih, List.append_assoc]
        · exact ih _ _

private theorem joinAll_stop (text other : List Char) :
    joinAll (text ++ '.' :: other) = joinAll text ++ '.' :: joinAll other := by
  induction text with
  | nil =>
      rw [List.nil_append, joinAll, joinAll, if_pos (by decide), joinAfter_stop]
      rfl
  | cons c rest ih =>
      rw [List.cons_append, joinAll, joinAll, joinAfter_append_stop, ih]
      split
      · rfl
      · rfl

/-- A full stop stays where it is, and no mark moves past it. -/
theorem composed_stop (text other : List Char) :
    composed (text ++ '.' :: other) = composed text ++ '.' :: composed other := by
  have stop : splitChar 2 '.' = ['.'] := splitChar_of_none 2 (splitChar?_of_ascii (by decide))
  rw [composed, decomposed_eq, splitText_append, splitText_cons, stop, List.singleton_append,
    orderMarks_stop, joinAll_stop]
  rfl

/-! ### What a composed text holds -/

section Closed

variable {holds : Char → Prop}

private theorem forall_mem_splitText
    (splits : ∀ {c a b}, holds c → splitChar? c = some (a, b) → holds a ∧ holds b)
    (all : ∀ c ∈ text, holds c) : ∀ c ∈ splitText text, holds c := by
  have each : ∀ depth c, holds c → ∀ d ∈ splitChar depth c, holds d := by
    intro depth
    induction depth with
    | zero =>
        intro c holdsChar
        simpa [splitChar] using holdsChar
    | succ depth ih =>
        intro c holdsChar
        rw [splitChar]
        split
        case h_1 => simpa using holdsChar
        case h_2 a b split =>
          obtain ⟨holdsFirst, holdsSecond⟩ := splits holdsChar split
          exact List.forall_mem_append.mpr ⟨ih a holdsFirst, by simpa using holdsSecond⟩
  intro c member
  obtain ⟨source, inText, inSource⟩ := List.mem_flatMap.mp member
  exact each 2 source (all source inText) c inSource

private theorem forall_mem_joinAfter
    (joins : ∀ {a b c}, holds a → holds b → joinChars? a b = some c → holds c)
    (holdsLetter : holds letter) (holdsPassed : ∀ c ∈ passed, holds c)
    (holdsRest : ∀ c ∈ rest, holds c) : ∀ c ∈ joinAfter letter passed rest, holds c := by
  have reversed : ∀ {passed : List Char}, (∀ c ∈ passed, holds c) → ∀ c ∈ passed.reverse, holds c :=
    fun all c member => all c (List.mem_reverse.mp member)
  induction rest generalizing letter passed with
  | nil => exact List.forall_mem_cons.mpr ⟨holdsLetter, reversed holdsPassed⟩
  | cons c others ih =>
      obtain ⟨holdsChar, holdsOthers⟩ := List.forall_mem_cons.mp holdsRest
      rcases joinAfter_cases letter c passed others with
        ⟨joined, isJoined, -, step⟩ | ⟨-, step⟩ | ⟨-, step⟩
      · rw [step]
        exact ih (joins holdsLetter holdsChar isJoined) holdsPassed holdsOthers
      · rw [step]
        exact List.forall_mem_append.mpr
          ⟨List.forall_mem_cons.mpr ⟨holdsLetter, reversed holdsPassed⟩,
            ih holdsChar (by simp) holdsOthers⟩
      · rw [step]
        exact ih holdsLetter (List.forall_mem_cons.mpr ⟨holdsChar, holdsPassed⟩) holdsOthers

/-- A property that splitting and joining keep holds of all characters of a composed text. -/
theorem forall_mem_composed
    (splits : ∀ {c a b}, holds c → splitChar? c = some (a, b) → holds a ∧ holds b)
    (joins : ∀ {a b c}, holds a → holds b → joinChars? a b = some c → holds c)
    (all : ∀ c ∈ text, holds c) : ∀ c ∈ composed text, holds c := by
  have holdsSplit : ∀ c ∈ decomposed text, holds c :=
    fun c member => forall_mem_splitText splits all c (mem_orderMarks.mp member)
  rw [composed]
  generalize decomposed text = text at holdsSplit
  clear all
  induction text with
  | nil => exact holdsSplit
  | cons c rest ih =>
      obtain ⟨holdsChar, holdsRest⟩ := List.forall_mem_cons.mp holdsSplit
      rw [joinAll]
      split
      case isTrue => exact forall_mem_joinAfter joins holdsChar (by simp) holdsRest
      case isFalse => exact List.forall_mem_cons.mpr ⟨holdsChar, ih holdsRest⟩

end Closed

/-- Composing makes no full stops. -/
theorem stop_not_mem_composed (noStop : '.' ∉ text) : '.' ∉ composed text := by
  have noAscii : ∀ {c : Char}, 128 ≤ c.toNat → c ≠ '.' := by
    rintro c beyond rfl
    exact absurd beyond (by decide)
  have all : ∀ c ∈ composed text, c ≠ '.' := by
    refine forall_mem_composed (fun {c a b} _ split => ?_) (fun {a b c} _ _ joined => ?_)
      fun c member isStop => noStop (isStop ▸ member)
    · have pairs := splitChar?_eq_some_iff.mp split
      refine ⟨?_, noAscii pairs.beyond_ascii.1⟩
      rintro rfl
      exact not_pairs_stop pairs
    · have pairs := splitChar?_eq_some_iff.mp (splitChar?_of_joinChars? joined)
      exact noAscii pairs.beyond_ascii.2
  exact fun member => all '.' member rfl

private theorem composed_intercalate {pieces : List (List Char)} (filled : pieces ≠ []) :
    composed (['.'].intercalate pieces) = ['.'].intercalate (pieces.map composed) := by
  induction pieces with
  | nil => exact absurd rfl filled
  | cons piece rest ih =>
      by_cases last : rest = []
      case pos =>
        rw [last, List.intercalate_singleton, List.map_singleton, List.intercalate_singleton]
      case neg =>
        rw [List.intercalate_cons_of_ne_nil last, List.append_assoc, List.singleton_append,
          composed_stop, ih last, List.map_cons,
          List.intercalate_cons_of_ne_nil (mt List.map_eq_nil_iff.mp last), List.append_assoc,
          List.singleton_append]

/-- The pieces of a composed text between full stops are composed. -/
theorem composed_of_mem_splitOn {piece : List Char} (settled : composed text = text)
    (isPiece : piece ∈ text.splitOn '.') : composed piece = piece := by
  have filled : text.splitOn '.' ≠ [] := List.splitOn_ne_nil '.' text
  have whole : ['.'].intercalate ((text.splitOn '.').map composed) = text := by
    rw [← composed_intercalate filled, List.intercalate_splitOn, settled]
  have pieces := congrArg (List.splitOn '.') whole
  rw [List.splitOn_intercalate '.' _ (mt List.map_eq_nil_iff.mp filled)] at pieces
  · exact List.map_inj_left.mp (pieces.trans (List.map_id _).symm) piece isPiece
  · intro other isOther
    obtain ⟨source, isSource, rfl⟩ := List.mem_map.mp isOther
    exact stop_not_mem_composed fun isStop => (Text.mem_of_mem_splitOn isSource isStop).2 rfl

end EventConsole.Url
