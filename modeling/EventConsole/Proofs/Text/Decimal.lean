import EventConsole.Natural
import EventConsole.Proofs.Text.Blank
import Mathlib.Data.List.Induction

/-!
Contract: the decimal text of a natural number reads back as that number.

Owns: the characters of such a text, its value, the numerals that are read, and
reading them as a signed word.
-/

namespace EventConsole.Text

/-! ### Characters -/

theorem isDecimalDigit_iff (c : Char) : isDecimalDigit c = true ↔ 48 ≤ c.toNat ∧ c.toNat ≤ 57 := by
  simp only [isDecimalDigit, Bool.and_eq_true, decide_eq_true_eq]
  exact Iff.rfl

theorem decimalDigit_of_mem {n : Nat} {c : Char} (member : c ∈ Nat.toDigits 10 n) :
    isDecimalDigit c = true := by
  have digit : c.isDigit = true :=
    Nat.isDigit_of_mem_toDigits (by decide) (by decide) member
  simp only [Char.isDigit, Bool.and_eq_true, decide_eq_true_eq] at digit
  exact (isDecimalDigit_iff c).mpr digit

/-- White space holds no digits. -/
theorem isBlank_of_digit {c : Char} (digit : isDecimalDigit c = true) : isBlank c = false := by
  have bounds := (isDecimalDigit_iff c).mp digit
  simp only [isBlank, Bool.or_eq_false_iff, Bool.and_eq_false_iff, decide_eq_false_iff_not,
    beq_eq_false_iff_ne]
  omega

private theorem not_sign_of_digit {c : Char} (digit : isDecimalDigit c = true) :
    c ≠ '+' ∧ c ≠ '-' := by
  have bounds := (isDecimalDigit_iff c).mp digit
  constructor
  · rintro rfl
    exact absurd bounds (by decide)
  · rintro rfl
    exact absurd bounds (by decide)

/-! ### Values -/

theorem decimalValue_append (digits : List Char) (c : Char) :
    decimalValue (digits ++ [c]) = decimalValue digits * 10 + (c.toNat - 48) := by
  simp [decimalValue, List.foldl_append]

/-- So many digits stay below that power of ten. -/
theorem decimalValue_lt {digits : List Char} (allDigits : ∀ c ∈ digits, isDecimalDigit c = true) :
    decimalValue digits < powerOf 10 digits.length := by
  induction digits using List.reverseRecOn with
  | nil => decide
  | append_singleton digits c inductionHypothesis =>
      rw [List.forall_mem_append, List.forall_mem_singleton] at allDigits
      have bounds := (isDecimalDigit_iff c).mp allDigits.2
      have below := inductionHypothesis allDigits.1
      have next : powerOf 10 (digits ++ [c]).length = powerOf 10 digits.length * 10 := by
        rw [List.length_append]
        rfl
      rw [decimalValue_append, next]
      omega

/-- The first digit counts as often as the others can go up. -/
theorem decimalValue_cons (c : Char) (digits : List Char) :
    decimalValue (c :: digits) =
      (c.toNat - 48) * powerOf 10 digits.length + decimalValue digits := by
  induction digits using List.reverseRecOn with
  | nil => simp [decimalValue]
  | append_singleton digits last inductionHypothesis =>
      have next : powerOf 10 (digits ++ [last]).length = powerOf 10 digits.length * 10 := by
        rw [List.length_append]
        rfl
      rw [← List.cons_append, decimalValue_append, decimalValue_append, inductionHypothesis, next]
      rw [Nat.add_mul, Nat.mul_assoc, Nat.add_assoc]

/-- Of two texts that start with as many digits the lesser number has the lesser text,
whatever follows. -/
theorem append_lt_of_decimalValue_lt {digits other : List Char}
    (allDigits : ∀ c ∈ digits, isDecimalDigit c = true)
    (otherDigits : ∀ c ∈ other, isDecimalDigit c = true) (sameLength : digits.length = other.length)
    (less : decimalValue digits < decimalValue other) (rest otherRest : List Char) :
    digits ++ rest < other ++ otherRest := by
  induction digits generalizing other with
  | nil =>
      obtain rfl := List.eq_nil_of_length_eq_zero sameLength.symm
      exact absurd less (Nat.lt_irrefl _)
  | cons c digits inductionHypothesis =>
      cases other with
      | nil => exact absurd sameLength (Nat.succ_ne_zero _)
      | cons d other =>
          rw [List.forall_mem_cons] at allDigits otherDigits
          have lengths : digits.length = other.length := Nat.succ.inj sameLength
          rw [List.cons_append, List.cons_append, List.cons_lt_cons_iff]
          rw [decimalValue_cons, decimalValue_cons, lengths] at less
          have small := decimalValue_lt otherDigits.2
          have isDigit := (isDecimalDigit_iff c).mp allDigits.1
          have otherIsDigit := (isDecimalDigit_iff d).mp otherDigits.1
          rcases Nat.lt_trichotomy c.toNat d.toNat with before | same | after
          · exact .inl before
          · obtain rfl := Char.toNat_inj.mp same
            exact .inr ⟨rfl, inductionHypothesis allDigits.2 otherDigits.2 lengths (by omega)⟩
          · -- A greater first digit outweighs all others.
            have outweighs : (d.toNat - 48 + 1) * powerOf 10 other.length ≤
                (c.toNat - 48) * powerOf 10 other.length := Nat.mul_le_mul_right _ (by omega)
            rw [Nat.add_mul] at outweighs
            omega

theorem decimalValue_zeros_append (count : Nat) (digits : List Char) :
    decimalValue (List.replicate count '0' ++ digits) = decimalValue digits := by
  induction count with
  | zero => rfl
  | succ count inductionHypothesis => exact inductionHypothesis

theorem decimalValue_toDigits (n : Nat) : decimalValue (Nat.toDigits 10 n) = n := by
  induction n using Nat.strongRecOn with
  | _ n inductionHypothesis =>
      rw [Nat.toDigits_eq_if (by decide)]
      split
      · rename_i small
        change 0 * 10 + ((Nat.digitChar n).toNat - 48) = n
        rw [Nat.toNat_digitChar_of_lt_ten small]
        omega
      · have last := Nat.toNat_digitChar_of_lt_ten (Nat.mod_lt n (show 0 < 10 by decide))
        rw [decimalValue_append, inductionHypothesis (n / 10) (by omega), last]
        omega

private theorem digits?_toDigits (n : Nat) : digits? (Nat.toDigits 10 n) = some n := by
  have filled : (Nat.toDigits 10 n).isEmpty = false := by simp
  have allDigits : (Nat.toDigits 10 n).all isDecimalDigit = true :=
    List.all_eq_true.mpr fun _ member => decimalDigit_of_mem member
  simp [digits?, filled, allDigits, decimalValue_toDigits]

/-! ### Numerals -/

/-- A numeral of a number: its decimal digits behind any number of zeros. -/
def IsNumeral (n : Nat) (text : List Char) : Prop :=
  ∃ zeros, text = List.replicate zeros '0' ++ Nat.toDigits 10 n

theorem toDigits_digit {c : Char} (digit : isDecimalDigit c = true) :
    Nat.toDigits 10 (c.toNat - 48) = [c] := by
  have bounds := (isDecimalDigit_iff c).mp digit
  have isChar : Nat.digitChar (c.toNat - 48) = c := by
    apply Char.toNat_inj.mp
    rw [Nat.toNat_digitChar_of_lt_ten (by omega)]
    omega
  rw [Nat.toDigits_of_lt_base (by omega), isChar]

/-- A digit after a numeral makes a numeral. -/
theorem IsNumeral.concat {n : Nat} {text : List Char} (numeral : IsNumeral n text) {c : Char}
    (digit : isDecimalDigit c = true) : IsNumeral (n * 10 + (c.toNat - 48)) (text ++ [c]) := by
  obtain ⟨zeros, rfl⟩ := numeral
  have bounds := (isDecimalDigit_iff c).mp digit
  cases n with
  | zero =>
      -- The zero itself is one more leading zero.
      refine ⟨zeros + 1, ?_⟩
      rw [Nat.zero_mul, Nat.zero_add, toDigits_digit digit, List.replicate_succ']
      rfl
  | succ n =>
      refine ⟨zeros, ?_⟩
      have joined := Nat.toDigits_append_toDigits (b := 10) (n := n + 1) (d := c.toNat - 48)
        (by decide) (by omega) (by omega)
      rw [List.append_assoc, Nat.mul_comm, ← joined, toDigits_digit digit]

/-- Digits are a numeral of their value. -/
theorem isNumeral_decimalValue {digits : List Char} (filled : digits ≠ [])
    (allDigits : ∀ c ∈ digits, isDecimalDigit c = true) :
    IsNumeral (decimalValue digits) digits := by
  induction digits using List.reverseRecOn with
  | nil => exact absurd rfl filled
  | append_singleton digits c inductionHypothesis =>
      rw [List.forall_mem_append, List.forall_mem_singleton] at allDigits
      by_cases first : digits = []
      · subst first
        refine ⟨0, ?_⟩
        rw [decimalValue_append, List.nil_append]
        exact (toDigits_digit allDigits.2).symm.trans (by simp [decimalValue])
      · rw [decimalValue_append]
        exact (inductionHypothesis first allDigits.1).concat allDigits.2

/-- What is read as digits alone are the numerals. -/
theorem digits?_eq_some_iff {text : List Char} {n : Nat} :
    digits? text = some n ↔ IsNumeral n text := by
  constructor
  · intro read
    rw [digits?] at read
    split at read
    case isTrue isText =>
      rw [Bool.and_eq_true, Bool.not_eq_true', List.all_eq_true] at isText
      have filled : text ≠ [] := by simpa using isText.1
      rw [← Option.some.inj read]
      exact isNumeral_decimalValue filled isText.2
    case isFalse => contradiction
  · rintro ⟨zeros, rfl⟩
    have allDigits : (List.replicate zeros '0' ++ Nat.toDigits 10 n).all isDecimalDigit = true := by
      rw [List.all_eq_true, List.forall_mem_append]
      exact ⟨fun c member => List.eq_of_mem_replicate member ▸ rfl,
        fun _ member => decimalDigit_of_mem member⟩
    have filled : (List.replicate zeros '0' ++ Nat.toDigits 10 n).isEmpty = false := by simp
    rw [digits?, filled, allDigits, decimalValue_zeros_append, decimalValue_toDigits]
    rfl

/-! ### Trimming -/

theorem trim_toDigits (n : Nat) : trim (Nat.toDigits 10 n) = Nat.toDigits 10 n :=
  trim_of_noBlank fun _ member => isBlank_of_digit (decimalDigit_of_mem member)

/-! ### Reading -/

theorem natural?_toDigits {n bound : Nat} (below : n < bound) :
    natural? bound (Nat.toDigits 10 n) = some n := by
  have noPlus : (Nat.toDigits 10 n).head? ≠ some '+' := fun starts =>
    (not_sign_of_digit (decimalDigit_of_mem (List.mem_of_mem_head? starts))).1 rfl
  simp [natural?, noPlus, digits?_toDigits, below]

private theorem signed64?_toDigits {n : Nat} (below : n < powerOf 2 63) :
    signed64? (Nat.toDigits 10 n) = some (n : Int) := by
  unfold signed64?
  split
  · rename_i rest starts
    have signDigit : isDecimalDigit '-' = true :=
      decimalDigit_of_mem (n := n) (by rw [starts]; simp)
    exact absurd signDigit (by decide)
  · rw [natural?_toDigits below]
    rfl

/-- A numeral with a plus sign before it, or with none. -/
def IsSignedNumeral (n : Nat) (text : List Char) : Prop :=
  IsNumeral n text ∨ ∃ digits, text = '+' :: digits ∧ IsNumeral n digits

private theorem IsNumeral.head?_ne {n : Nat} {text : List Char} (numeral : IsNumeral n text)
    {c : Char} (noDigit : isDecimalDigit c = false) : text.head? ≠ some c := by
  intro starts
  obtain ⟨_, allDigits⟩ : text ≠ [] ∧ ∀ c ∈ text, isDecimalDigit c = true := by
    have read := digits?_eq_some_iff.mpr numeral
    rw [digits?] at read
    split at read
    case isTrue isText => simpa using isText
    case isFalse => contradiction
  rw [allDigits c (List.mem_of_mem_head? starts)] at noDigit
  contradiction

theorem natural?_eq_some_iff {text : List Char} {n bound : Nat} :
    natural? bound text = some n ↔ n < bound ∧ IsSignedNumeral n text := by
  have readDigits (digits : List Char) :
      (digits? digits).filter (· < bound) = some n ↔ n < bound ∧ IsNumeral n digits := by
    rw [Option.filter_eq_some_iff, digits?_eq_some_iff, decide_eq_true_eq, and_comm]
  unfold natural?
  by_cases plus : text.head? = some '+'
  · obtain ⟨digits, rfl⟩ := List.head?_eq_some_iff.mp plus
    have noNumeral : ¬ IsNumeral n ('+' :: digits) := fun numeral => numeral.head?_ne rfl rfl
    simp only [plus, if_true, List.drop_one, List.tail_cons, readDigits, IsSignedNumeral, noNumeral,
      false_or, List.cons.injEq, true_and, exists_eq_left']
  · have noPlus : ¬ ∃ digits, text = '+' :: digits ∧ IsNumeral n digits := by
      rintro ⟨digits, rfl, _⟩
      exact plus rfl
    simp only [plus, if_false, readDigits, IsSignedNumeral, noPlus, or_false]

/-- The positive words that are read are the numerals below the bound, with a plus
sign or without one. -/
theorem signed64?_eq_some_iff {text : List Char} {n : Nat} (positive : 1 ≤ n) :
    signed64? text = some (n : Int) ↔ n < powerOf 2 63 ∧ IsSignedNumeral n text := by
  rw [← natural?_eq_some_iff]
  unfold signed64?
  split
  case h_1 rest =>
    have noNatural : natural? (powerOf 2 63) ('-' :: rest) ≠ some n := by
      rw [Ne, natural?_eq_some_iff]
      rintro ⟨_, numeral | ⟨_, plus, _⟩⟩
      · exact numeral.head?_ne rfl rfl
      · exact absurd (List.cons.inj plus).1 (by decide)
    refine iff_of_false (fun read => ?_) noNatural
    obtain ⟨m, isNumber, negative⟩ := Option.map_eq_some_iff.mp read
    obtain ⟨k, _, isNatural⟩ := Option.bind_eq_some_iff.mp isNumber
    have natural : (k : Int) = m := Option.some.inj isNatural
    omega
  case h_2 =>
    rw [Option.map_eq_some_iff]
    constructor
    · rintro ⟨m, read, same⟩
      rwa [Int.ofNat_inj.mp same] at read
    · intro read
      exact ⟨n, read, rfl⟩

/-- The text that writes a number reads back, whatever blanks would have been cut. -/
theorem signed64?_trim_toString {n : Nat} (below : n < powerOf 2 63) :
    signed64? (trim (toString n).toList) = some (n : Int) := by
  have text : (toString n).toList = Nat.toDigits 10 n := Nat.toList_repr
  rw [text, trim_toDigits, signed64?_toDigits below]

end EventConsole.Text
