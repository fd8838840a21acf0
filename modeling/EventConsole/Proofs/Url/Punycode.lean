import EventConsole.Natural
import EventConsole.Proofs.Text.Pieces
import EventConsole.Url.Punycode
import Mathlib.Tactic.ByContra
import Mathlib.Tactic.Ring

/-!
Contract: a label is read back from its Punycode.

The writer passes the label once for each code point and counts the places that it
passes; the reader counts the same places off and inserts a character at each. The
reader gives up on numbers whose digits weigh too much, which no label of a thousand
characters has.

Owns: digits and numbers, what the reader knows when the writer has come to a place,
and the characters of the written form.
-/

namespace EventConsole.Url.Punycode

/-! ### Digits -/

theorem digitValue?_digit {value : Nat} (small : value < 36) :
    digitValue? (digit value) = some value := by
  have all : ∀ value : Fin 36, digitValue? (digit value.val) = some value.val := by decide
  exact all ⟨value, small⟩

/-! ### Numbers -/

/-- Numbers up to this one are read whatever their digits weigh. -/
def readableLimit : Nat := 252645135

/-- The reader at the place where the next character goes. -/
def Reading.insert (reading : Reading) (place : Nat) : Option Reading :=
  let count := reading.output.length + 1
  let code := reading.code + place / count
  let index := place % count
  if code.isValidChar then
    some
      { output := reading.output.take index ++ Char.ofNat code :: reading.output.drop index
        code := code
        place := index + 1
        bias := adapt (place - reading.start) count (reading.start == 0)
        start := index + 1
        weight := 1
        position := 36 }
  else none

/-- A place counts whole rounds and the places after them. -/
theorem Reading.insert_eq (reading : Reading) {gap index : Nat}
    (inside : index ≤ reading.output.length) (valid : (reading.code + gap).isValidChar) :
    reading.insert ((reading.output.length + 1) * gap + index) =
      some
        { output := reading.output.take index ++
            Char.ofNat (reading.code + gap) :: reading.output.drop index
          code := reading.code + gap
          place := index + 1
          bias := adapt ((reading.output.length + 1) * gap + index - reading.start)
            (reading.output.length + 1) (reading.start == 0)
          start := index + 1
          weight := 1
          position := 36 } := by
  have quotient : ((reading.output.length + 1) * gap + index) / (reading.output.length + 1) =
      gap := by
    rw [Nat.mul_add_div (Nat.succ_pos _), Nat.div_eq_of_lt (Nat.lt_succ_of_le inside),
      Nat.add_zero]
  have remainder : ((reading.output.length + 1) * gap + index) % (reading.output.length + 1) =
      index := by
    rw [Nat.mul_add_mod, Nat.mod_eq_of_lt (Nat.lt_succ_of_le inside)]
  rw [insert]
  simp only [quotient, remainder, if_pos valid]

/-- The weight of a digit before which `number` is still to be read: as long as digits end
numbers at the threshold of one, it is a power of 35. -/
structure IsReadable (bias position weight number : Nat) : Prop where
  below : weight * number ≤ readableLimit
  power : threshold position bias = 1 → ∃ exponent, weight = powerOf 35 exponent

variable {bias position weight number : Nat}

private theorem threshold_next (least : 1 < threshold position bias) :
    1 < threshold (position + 36) bias := by
  unfold threshold at *
  omega

/-- The weight of the next digit is below the limit. -/
theorem IsReadable.weight_lt (readable : IsReadable bias position weight number)
    (goesOn : threshold position bias ≤ number) :
    weight * (36 - threshold position bias) < weightLimit := by
  have least := threshold_positive position bias
  have below := readable.below
  by_cases one : threshold position bias = 1
  case pos =>
    obtain ⟨exponent, rfl⟩ := readable.power one
    have single : powerOf 35 exponent ≤ readableLimit := by
      calc powerOf 35 exponent ≤ powerOf 35 exponent * number :=
            Nat.le_mul_of_pos_right _ (by omega)
        _ ≤ readableLimit := below
    have small : exponent < 6 := by
      by_contra large
      have grows : powerOf 35 6 ≤ powerOf 35 exponent :=
        Nat.pow_le_pow_right (by decide) (Nat.not_lt.mp large)
      exact absurd (Nat.le_trans grows single) (by decide)
    calc powerOf 35 exponent * (36 - threshold position bias) = powerOf 35 (exponent + 1) := by
          rw [one]
          rfl
      _ ≤ powerOf 35 6 := Nat.pow_le_pow_right (by decide) small
      _ < weightLimit := by decide
  case neg =>
    have twice : weight * 2 ≤ readableLimit := by
      calc weight * 2 ≤ weight * number := Nat.mul_le_mul_left weight (by omega)
        _ ≤ readableLimit := below
    calc weight * (36 - threshold position bias) ≤ weight * 34 :=
          Nat.mul_le_mul_left weight (by omega)
      _ < weightLimit := by
          rw [readableLimit] at twice
          rw [weightLimit]
          omega

theorem IsReadable.next (readable : IsReadable bias position weight number) :
    IsReadable bias (position + 36) (weight * (36 - threshold position bias))
      ((number - threshold position bias) / (36 - threshold position bias)) where
  below := by
    calc weight * (36 - threshold position bias) *
          ((number - threshold position bias) / (36 - threshold position bias))
        = weight * ((36 - threshold position bias) *
          ((number - threshold position bias) / (36 - threshold position bias))) :=
            Nat.mul_assoc ..
      _ ≤ weight * number :=
          Nat.mul_le_mul_left weight (Nat.le_trans (Nat.mul_div_le _ _) (Nat.sub_le _ _))
      _ ≤ readableLimit := readable.below
  power one := by
    have before : threshold position bias = 1 := by
      have least := threshold_positive position bias
      by_contra more
      have above : 1 < threshold position bias := by omega
      have next := threshold_next above
      omega
    obtain ⟨exponent, rfl⟩ := readable.power before
    exact ⟨exponent + 1, by rw [before]; rfl⟩

/-- What a digit and the number after it add to the place. -/
theorem add_digit (place least remainder base quotient weight : Nat) :
    place + (least + remainder) * weight + quotient * (weight * base) =
      place + (least + (remainder + base * quotient)) * weight := by
  ring

/-- The digits of a number are read as this number, after which a character goes in. -/
theorem readDigits_numberDigits (reading : Reading) (number : Nat)
    (readable : IsReadable reading.bias reading.position reading.weight number)
    (rest : List Char) :
    readDigits reading (numberDigits reading.bias reading.position number ++ rest) =
      (reading.insert (reading.place + number * reading.weight)).bind
        fun reading => readDigits reading rest := by
  induction number using Nat.strongRecOn generalizing reading with
  | _ number ih =>
      have least := threshold_positive reading.position reading.bias
      have most := threshold_small reading.position reading.bias
      rw [numberDigits]
      split
      case isTrue last =>
        rw [List.singleton_append, readDigits, readDigit, digitValue?_digit (by omega)]
        dsimp only
        rw [if_pos last]
        rfl
      case isFalse goesOn =>
        have goesOn := Nat.not_lt.mp goesOn
        have remainder := Nat.mod_lt (number - threshold reading.position reading.bias)
          (show 0 < 36 - threshold reading.position reading.bias by omega)
        have smaller : (number - threshold reading.position reading.bias) /
            (36 - threshold reading.position reading.bias) < number :=
          Nat.lt_of_le_of_lt (Nat.div_le_self _ _) (by omega)
        rw [List.cons_append, readDigits, readDigit, digitValue?_digit (by omega)]
        dsimp only
        rw [if_neg (by omega), if_pos (readable.weight_lt goesOn), Option.bind_some]
        have later := ih _ smaller
          { reading with
            place := reading.place + (threshold reading.position reading.bias +
              (number - threshold reading.position reading.bias) %
                (36 - threshold reading.position reading.bias)) * reading.weight
            weight := reading.weight * (36 - threshold reading.position reading.bias)
            position := reading.position + 36 } readable.next
        dsimp only at later
        have whole : threshold reading.position reading.bias +
            (number - threshold reading.position reading.bias) = number := by omega
        rw [later, add_digit, Nat.mod_add_div, whole]
        rfl

/-! ### Places

In the round of a code point the writer has passed some characters of the label. The
reader then holds those of them up to this code point, and of the rest those before it. -/

/-- The reader has come as far as the writer: `front` and `back` are what it holds before and
behind the writer's place. -/
structure Tracks (basic : List Char) (code : Nat) (front back : List Char) (writing : Writing)
    (reading : Reading) : Prop where
  reads : ∀ rest, readDigits (.begin basic) (writing.output ++ rest) = readDigits reading rest
  output : reading.output = front ++ back
  placed : writing.placed = (front ++ back).length
  bias : writing.bias = reading.bias
  weight : reading.weight = 1
  position : reading.position = 36
  start : reading.start = reading.place
  afterBasic : basic.length ≤ writing.placed
  first : reading.place = 0 ↔ writing.placed = basic.length
  /-- The places between reader and writer are the difference to be written. -/
  distance : writing.difference + reading.place + reading.code * (writing.placed + 1) =
    code * (writing.placed + 1) + front.length

/-- The greatest length of labels and the bound of code points that are read for sure. -/
def readableLength : Nat := 1000
def codeBound : Nat := 252000

variable {basic front back left label : List Char} {code next : Nat} {writing : Writing}
  {reading : Reading} {c : Char}

/-- Before anything is written the reader holds the ASCII characters. -/
theorem tracks_begin (basic : List Char) :
    Tracks basic 128 [] basic ⟨[], 0, 72, basic.length⟩ (.begin basic) where
  reads _ := rfl
  output := rfl
  placed := rfl
  bias := rfl
  weight := rfl
  position := rfl
  start := rfl
  afterBasic := Nat.le_refl _
  first := by simp [Reading.begin]
  distance := by simp [Reading.begin]

/-- A character that was read before is passed. -/
theorem Tracks.pass (tracks : Tracks basic code front (c :: back) writing reading)
    (before : c.toNat < code) :
    Tracks basic code (front ++ [c]) back (writeChar basic.length code writing c) reading := by
  rw [writeChar, if_pos before]
  exact
    { tracks with
      output := by simp [tracks.output]
      placed := by simp [tracks.placed]
      distance := by
        have distance := tracks.distance
        rw [List.length_append, List.length_singleton]
        dsimp only
        omega }

/-- A character that comes later is passed without a trace. -/
theorem Tracks.skip (tracks : Tracks basic code front back writing reading)
    (after : code < c.toNat) :
    Tracks basic code front back (writeChar basic.length code writing c) reading := by
  rwa [writeChar, if_neg (Nat.not_lt.mpr (Nat.le_of_lt after)), if_neg (Nat.ne_of_gt after)]

/-- The character of the round is written and read. -/
theorem Tracks.place (tracks : Tracks basic code front back writing reading)
    (same : c.toNat = code) (below : code < codeBound)
    (short : (front ++ back).length < readableLength) :
    ∃ reading', Tracks basic code (front ++ [c]) back
      (writeChar basic.length code writing c) reading' := by
  have distance := tracks.distance
  have placed := tracks.placed
  have inFront : front.length ≤ writing.placed := by
    rw [placed, List.length_append]
    exact Nat.le_add_right _ _
  have readable :
      IsReadable reading.bias reading.position reading.weight writing.difference := by
    refine ⟨?_, fun _ => ⟨0, tracks.weight⟩⟩
    rw [tracks.weight, Nat.one_mul]
    have whole : code * (writing.placed + 1) ≤ codeBound * readableLength :=
      Nat.mul_le_mul (Nat.le_of_lt below) (by omega)
    have size : codeBound * readableLength + readableLength ≤ readableLimit := by decide
    omega
  -- The reader comes to the code point of the round and to the place of the writer.
  have reached : reading.code ≤ code := by
    by_contra ahead
    have further : (code + 1) * (writing.placed + 1) ≤ reading.code * (writing.placed + 1) :=
      Nat.mul_le_mul_right _ (Nat.not_le.mp ahead)
    rw [Nat.add_mul] at further
    omega
  obtain ⟨gap, rfl⟩ := Nat.exists_eq_add_of_le reached
  have place : reading.place + writing.difference * reading.weight =
      (reading.output.length + 1) * gap + front.length := by
    rw [Nat.add_mul] at distance
    rw [tracks.weight, tracks.output, ← placed, Nat.mul_comm _ gap]
    omega
  have inside : front.length ≤ reading.output.length := by
    rw [tracks.output, ← placed]
    exact inFront
  have valid : (reading.code + gap).isValidChar := by
    rw [← same]
    exact c.valid
  have isFirst : (reading.start == 0) = (writing.placed == basic.length) := by
    rw [Bool.eq_iff_iff, beq_iff_eq, beq_iff_eq, tracks.start, tracks.first]
  have difference : (reading.output.length + 1) * gap + front.length - reading.start =
      writing.difference := by
    rw [tracks.start, ← place, tracks.weight]
    omega
  have inserted := readDigits_numberDigits reading writing.difference readable
  rw [place, reading.insert_eq inside valid, difference, isFirst, ← tracks.bias, tracks.position,
    ← same, Char.ofNat_toNat] at inserted
  rw [writeChar, if_neg (by omega), if_pos same]
  refine ⟨_,
    { reads := fun rest => by
        dsimp only
        rw [List.append_assoc, tracks.reads]
        exact inserted rest
      output := by simp [tracks.output]
      placed := by
        dsimp only
        rw [placed]
        simp only [List.length_append, List.length_singleton]
        omega
      bias := by
        dsimp only
        rw [tracks.output, ← placed]
      weight := rfl
      position := rfl
      start := rfl
      afterBasic := Nat.le_succ_of_le tracks.afterBasic
      first := by
        have least := tracks.afterBasic
        dsimp only
        omega
      distance := by
        dsimp only
        rw [List.length_append, List.length_singleton, same]
        omega }⟩

/-! ### Rounds -/

/-- In a round the writer passes the whole label. -/
theorem Tracks.round
    (tracks : Tracks basic code front (left.filter (·.toNat < code)) writing reading)
    (below : code < codeBound) (short : front.length + left.length ≤ readableLength) :
    ∃ reading', Tracks basic code (front ++ left.filter (·.toNat ≤ code)) []
      (left.foldl (writeChar basic.length code) writing) reading' := by
  induction left generalizing front writing reading with
  | nil => exact ⟨reading, by simpa using tracks⟩
  | cons c rest ih =>
      rw [List.length_cons] at short
      have longer : (front ++ [c]).length + rest.length ≤ readableLength := by
        rw [List.length_append, List.length_singleton]
        omega
      have held := List.length_filter_le (·.toNat < code) rest
      rcases Nat.lt_trichotomy c.toNat code with before | same | after
      · rw [List.filter_cons_of_pos (by simpa using before)] at tracks
        obtain ⟨reading', tracks'⟩ := ih (tracks.pass before) longer
        rw [List.filter_cons_of_pos (by simpa using Nat.le_of_lt before)]
        exact ⟨reading', by simpa using tracks'⟩
      · rw [List.filter_cons_of_neg (by simp [same])] at tracks
        obtain ⟨placed, here⟩ := tracks.place same below (by rw [List.length_append]; omega)
        obtain ⟨reading', tracks'⟩ := ih here longer
        rw [List.filter_cons_of_pos (by simp [same])]
        exact ⟨reading', by simpa using tracks'⟩
      · rw [List.filter_cons_of_neg (by simpa using Nat.le_of_lt after)] at tracks
        obtain ⟨reading', tracks'⟩ := ih (tracks.skip after) (by omega)
        rw [List.filter_cons_of_neg (by simpa using after)]
        exact ⟨reading', tracks'⟩

/-- After a round the writer stands before the label again, at the next code point. -/
theorem Tracks.turn
    (tracks : Tracks basic code (label.filter (·.toNat ≤ code)) [] writing reading) :
    Tracks basic (code + 1) [] (label.filter (·.toNat < code + 1))
      { writing with difference := writing.difference + 1 } reading := by
  have same : label.filter (·.toNat < code + 1) = label.filter (·.toNat ≤ code) :=
    List.filter_congr fun _ _ => decide_eq_decide.mpr Nat.lt_succ_iff
  have placed := tracks.placed
  have distance := tracks.distance
  rw [List.append_nil] at placed
  rw [same]
  exact
    { tracks with
      output := by simp [tracks.output]
      placed := placed
      distance := by
        dsimp only [List.length_nil]
        rw [Nat.add_mul code 1, ← placed] at *
        omega }

/-- Rounds of code points that the label does not hold are counted without passing it. -/
theorem Tracks.ahead (tracks : Tracks basic next [] (label.filter (·.toNat < next)) writing reading)
    (later : next ≤ code) (none : ∀ c ∈ label, next ≤ c.toNat → code ≤ c.toNat) :
    Tracks basic code [] (label.filter (·.toNat < code))
      { writing with difference := writing.difference + (code - next) * (writing.placed + 1) }
      reading := by
  have same : label.filter (·.toNat < code) = label.filter (·.toNat < next) := by
    refine List.filter_congr fun c member => ?_
    rw [Bool.eq_iff_iff, decide_eq_true_eq, decide_eq_true_eq]
    have := none c member
    omega
  have distance := tracks.distance
  obtain ⟨gap, rfl⟩ := Nat.exists_eq_add_of_le later
  rw [same]
  exact
    { tracks with
      distance := by
        dsimp only
        rw [Nat.add_sub_cancel_left, Nat.add_mul next gap]
        omega }

/-- When the rounds have come to every code point of the label, the reader holds the label. -/
theorem Tracks.rounds {codes : List Nat}
    (tracks : Tracks basic next [] (label.filter (·.toNat < next)) writing reading)
    (increasing : codes.Pairwise (· < ·)) (later : ∀ code ∈ codes, next ≤ code)
    (covers : ∀ c ∈ label, next ≤ c.toNat → c.toNat ∈ codes)
    (below : ∀ code ∈ codes, code < codeBound) (short : label.length ≤ readableLength) :
    readDigits (.begin basic) (writeRounds label basic.length codes next writing).output =
      some label := by
  induction codes generalizing next writing reading with
  | nil =>
      have all : label.filter (·.toNat < next) = label := by
        refine List.filter_eq_self.mpr fun c member => ?_
        rw [decide_eq_true_eq]
        by_contra after
        exact absurd (covers c member (Nat.not_lt.mp after)) List.not_mem_nil
      have read := tracks.reads []
      rw [List.append_nil, readDigits, if_pos tracks.position, tracks.output, all] at read
      exact read
  | cons code rest ih =>
      obtain ⟨first, increasing⟩ := List.pairwise_cons.mp increasing
      have none : ∀ c ∈ label, next ≤ c.toNat → code ≤ c.toNat := by
        intro c member after
        rcases List.mem_cons.mp (covers c member after) with same | inRest
        · exact Nat.le_of_eq same.symm
        · exact Nat.le_of_lt (first _ inRest)
      have begun := tracks.ahead (later code List.mem_cons_self) none
      obtain ⟨reading', passed⟩ :=
        begun.round (below code List.mem_cons_self) (by simpa using short)
      rw [List.nil_append] at passed
      refine ih passed.turn increasing (fun other inRest => first other inRest) ?_ ?_
      · intro c member after
        have inCodes := covers c member (Nat.le_trans (later code List.mem_cons_self) (by omega))
        rcases List.mem_cons.mp inCodes with same | inRest
        · omega
        · exact inRest
      · exact fun other inRest => below other (List.mem_cons_of_mem _ inRest)

/-! ### The code points of a label -/

theorem mem_insertCode {codes : List Nat} {other : Nat} :
    other ∈ insertCode code codes ↔ other = code ∨ other ∈ codes := by
  induction codes with
  | nil => simp [insertCode]
  | cons first rest ih =>
      rw [insertCode]
      split
      case isTrue => simp
      case isFalse =>
        split
        case isTrue same => simp [same]
        case isFalse =>
          rw [List.mem_cons, ih, List.mem_cons]
          tauto

private theorem increasing_insertCode {codes : List Nat} (increasing : codes.Pairwise (· < ·)) :
    (insertCode code codes).Pairwise (· < ·) := by
  induction codes with
  | nil => simp [insertCode]
  | cons first rest ih =>
      obtain ⟨after, increasingRest⟩ := List.pairwise_cons.mp increasing
      rw [insertCode]
      split
      case isTrue before =>
        refine List.pairwise_cons.mpr ⟨?_, increasing⟩
        exact List.forall_mem_cons.mpr
          ⟨before, fun other member => before.trans (after other member)⟩
      case isFalse notBefore =>
        split
        case isTrue => exact increasing
        case isFalse other =>
          refine List.pairwise_cons.mpr ⟨fun later member => ?_, ih increasingRest⟩
          rcases mem_insertCode.mp member with rfl | inRest
          · omega
          · exact after later inRest

/-- The code points beyond ASCII, in increasing order. -/
def codesOf (label : List Char) : List Nat :=
  (label.filter fun c => !isBasic c).foldr (fun c codes => insertCode c.toNat codes) []

theorem mem_codesOf :
    code ∈ codesOf label ↔ ∃ c ∈ label, isBasic c = false ∧ c.toNat = code := by
  have all : ∀ chars : List Char,
      code ∈ chars.foldr (fun c codes => insertCode c.toNat codes) [] ↔
        ∃ c ∈ chars, c.toNat = code := by
    intro chars
    induction chars with
    | nil => simp
    | cons c rest ih =>
        rw [List.foldr_cons, mem_insertCode, ih]
        simp [eq_comm]
  rw [codesOf, all]
  simp [and_assoc]

private theorem increasing_codesOf (label : List Char) : (codesOf label).Pairwise (· < ·) := by
  unfold codesOf
  induction label.filter fun c => !isBasic c with
  | nil => exact List.Pairwise.nil
  | cons c rest ih => exact increasing_insertCode ih

/-! ### The written form -/

theorem exists_digit_of_mem_numberDigits {number : Nat}
    (member : c ∈ numberDigits bias position number) : ∃ value < 36, c = digit value := by
  induction number using Nat.strongRecOn generalizing position with
  | _ number ih =>
      have least := threshold_positive position bias
      have most := threshold_small position bias
      rw [numberDigits] at member
      split at member
      case isTrue last => exact ⟨number, by omega, List.mem_singleton.mp member⟩
      case isFalse goesOn =>
        have remainder := Nat.mod_lt (number - threshold position bias)
          (show 0 < 36 - threshold position bias by omega)
        rcases List.mem_cons.mp member with here | later
        · exact ⟨_, by omega, here⟩
        · refine ih _ (Nat.lt_of_le_of_lt (Nat.div_le_self _ _) ?_) later
          omega

/-- The writer writes digits only. -/
theorem exists_digit_of_mem_writeChar (digits : ∀ d ∈ writing.output, ∃ value < 36, d = digit value)
    (basicCount code : Nat) (c : Char) :
    ∀ d ∈ (writeChar basicCount code writing c).output, ∃ value < 36, d = digit value := by
  unfold writeChar
  split
  case isTrue => exact digits
  case isFalse =>
    split
    case isTrue =>
      refine List.forall_mem_append.mpr ⟨digits, fun d member => ?_⟩
      exact exists_digit_of_mem_numberDigits member
    case isFalse => exact digits

private theorem exists_digit_of_mem_writeRounds {codes : List Nat}
    (digits : ∀ d ∈ writing.output, ∃ value < 36, d = digit value) (label : List Char)
    (basicCount next : Nat) :
    ∀ d ∈ (writeRounds label basicCount codes next writing).output,
      ∃ value < 36, d = digit value := by
  induction codes generalizing next writing with
  | nil => exact digits
  | cons code rest ih =>
      refine ih ?_ (code + 1)
      refine List.foldlRecOn
        (motive := fun writing : Writing => ∀ d ∈ writing.output, ∃ value < 36, d = digit value)
        label _ digits fun writing digits c _ => ?_
      exact exists_digit_of_mem_writeChar digits basicCount code c

/-- The digits of the written form. -/
def tailOf (label : List Char) : List Char :=
  (writeRounds label (label.filter isBasic).length (codesOf label) 128
    ⟨[], 0, 72, (label.filter isBasic).length⟩).output

theorem encode_eq (label : List Char) :
    encode label = label.filter isBasic ++
      (if (label.filter isBasic).isEmpty then [] else ['-']) ++ tailOf label := rfl

private theorem exists_digit_of_mem_tailOf (member : c ∈ tailOf label) :
    ∃ value < 36, c = digit value :=
  exists_digit_of_mem_writeRounds (by simp) label _ _ c member

/-- The written form holds ASCII characters of the label, hyphens and digits. -/
theorem mem_encode (member : c ∈ encode label) :
    (c ∈ label ∧ isBasic c = true) ∨ c = '-' ∨ ∃ value < 36, c = digit value := by
  rw [encode_eq] at member
  rcases List.mem_append.mp member with inFront | inTail
  · rcases List.mem_append.mp inFront with inBasic | isHyphen
    · exact .inl (List.mem_filter.mp inBasic)
    · split at isHyphen
      · cases isHyphen
      · exact .inr (.inl (List.mem_singleton.mp isHyphen))
  · exact .inr (.inr (exists_digit_of_mem_tailOf inTail))

private theorem digit_ne_hyphen {value : Nat} (small : value < 36) : digit value ≠ '-' := by
  have all : ∀ value : Fin 36, digit value.val ≠ '-' := by decide
  exact all ⟨value, small⟩

private theorem readDigits_tailOf (below : ∀ c ∈ label, c.toNat < codeBound)
    (short : label.length ≤ readableLength) :
    readDigits (.begin (label.filter isBasic)) (tailOf label) = some label := by
  refine (tracks_begin (label.filter isBasic)).rounds (increasing_codesOf label) ?_ ?_ ?_ short
  · intro code member
    obtain ⟨c, -, notBasic, rfl⟩ := mem_codesOf.mp member
    simpa [isBasic] using notBasic
  · intro c member beyond
    exact mem_codesOf.mpr ⟨c, member, by simpa [isBasic] using beyond, rfl⟩
  · intro code member
    obtain ⟨c, inLabel, -, rfl⟩ := mem_codesOf.mp member
    exact below c inLabel

private theorem decode?_of_not_mem {digits : List Char} (noHyphen : '-' ∉ digits) :
    decode? digits = readDigits (.begin []) digits := by
  have absent := List.mem_reverse.not.mpr noHyphen
  unfold decode?
  dsimp only
  rw [Text.takeWhile_ne_of_not_mem absent, Text.dropWhile_ne_of_not_mem absent,
    List.reverse_reverse]

/-- The last hyphen of a text ends its ASCII characters. -/
theorem decode?_hyphen {digits : List Char} (noHyphen : '-' ∉ digits) (filled : basic ≠ []) :
    decode? (basic ++ '-' :: digits) =
      if basic.all isBasic then readDigits (.begin basic) digits else none := by
  have absent := List.mem_reverse.not.mpr noHyphen
  have reversed : (basic ++ '-' :: digits).reverse = digits.reverse ++ '-' :: basic.reverse := by
    simp
  obtain ⟨last, others, shape⟩ := List.exists_cons_of_ne_nil (List.reverse_ne_nil_iff.mpr filled)
  unfold decode?
  dsimp only
  rw [reversed, Text.takeWhile_ne_append absent, Text.dropWhile_ne_append absent, shape]
  dsimp only
  rw [← shape, List.all_reverse, List.reverse_reverse, List.reverse_reverse]

/-- A label is read back from its written form. -/
theorem decode?_encode (below : ∀ c ∈ label, c.toNat < codeBound)
    (short : label.length ≤ readableLength) : decode? (encode label) = some label := by
  have read := readDigits_tailOf below short
  have noHyphen : '-' ∉ tailOf label := by
    intro member
    obtain ⟨value, small, isDigit⟩ := exists_digit_of_mem_tailOf member
    exact digit_ne_hyphen small isDigit.symm
  have basic : (label.filter isBasic).all isBasic = true :=
    List.all_eq_true.mpr fun c member => (List.mem_filter.mp member).2
  rw [encode_eq]
  by_cases empty : label.filter isBasic = []
  case pos =>
    rw [empty] at read ⊢
    rw [List.isEmpty_nil, if_pos rfl, List.nil_append, List.nil_append,
      decode?_of_not_mem noHyphen, read]
  case neg =>
    rw [List.isEmpty_eq_false_iff.mpr empty, if_neg Bool.false_ne_true, List.append_assoc,
      List.singleton_append, decode?_hyphen noHyphen empty, basic, if_pos rfl, read]

/-! ### What is read -/

theorem isBasic_of_digitValue? {value : Nat} (isDigit : digitValue? c = some value) :
    isBasic c = true := by
  rw [isBasic, decide_eq_true_eq]
  unfold digitValue? at isDigit
  dsimp only at isDigit
  by_contra beyond
  rw [if_neg (by omega), if_neg (by omega), if_neg (by omega)] at isDigit
  cases isDigit

private theorem isBasic_of_readDigits {digits output : List Char}
    (read : readDigits reading digits = some output) : ∀ c ∈ digits, isBasic c = true := by
  induction digits generalizing reading with
  | nil => simp
  | cons c rest ih =>
      obtain ⟨reading', step, readRest⟩ := Option.bind_eq_some_iff.mp read
      refine List.forall_mem_cons.mpr ⟨?_, ih readRest⟩
      unfold readDigit at step
      split at step
      case h_1 => cases step
      case h_2 value isDigit => exact isBasic_of_digitValue? isDigit

/-- Only ASCII text is read. -/
theorem isBasic_of_decode? {text : List Char} (read : decode? text = some label) :
    ∀ c ∈ text, isBasic c = true := by
  have parts := List.takeWhile_append_dropWhile (p := fun c => decide (c ≠ '-')) (l := text.reverse)
  have first := List.head?_dropWhile_not (fun c => decide (c ≠ '-')) text.reverse
  have digits : ∀ {basic : List Char},
      readDigits (.begin basic) (text.reverse.takeWhile fun c => decide (c ≠ '-')).reverse =
        some label → ∀ c ∈ text.reverse.takeWhile fun c => decide (c ≠ '-'), isBasic c = true :=
    fun read c member => isBasic_of_readDigits read c (List.mem_reverse.mpr member)
  suffices reversed : ∀ c ∈ text.reverse, isBasic c = true from
    fun c member => reversed c (List.mem_reverse.mpr member)
  rw [← parts]
  unfold decode? at read
  dsimp only at read
  split at read
  case h_1 noHyphen =>
    rw [noHyphen, List.append_nil]
    exact digits read
  case h_2 => cases read
  case h_3 hyphen basic _ afterDigits =>
    rw [afterDigits] at first ⊢
    obtain rfl : hyphen = '-' := by simpa using first
    split at read
    case isTrue allBasic =>
      refine List.forall_mem_append.mpr ⟨digits read, List.forall_mem_cons.mpr ⟨by decide, ?_⟩⟩
      exact List.all_eq_true.mp allBasic
    case isFalse => cases read

end EventConsole.Url.Punycode
