import EventConsole.Json.Token
import EventConsole.Proofs.Json.Printer
import Mathlib.Tactic.IntervalCases

/-!
Contract: the written forms of strings and whole numbers are read as the tokens
they were written for.

A string ends at its own closing quote, whatever follows it. A number ends only
where the text goes on with something that is no part of a number.

Owns: escaped characters and quoted strings, digits and the integers that they
stand for, and the tokens of a string and of a whole number.
-/

namespace EventConsole.Json

/-! ### Strings -/

/-- A string part without a half character. -/
def StringPart.ofTaken (taken : List Char) : StringPart := ⟨some taken, none⟩

@[simp] theorem StringPart.add_ofTaken (taken : List Char) (c : Char) :
    (StringPart.ofTaken taken).add c = StringPart.ofTaken (c :: taken) := rfl

private theorem stringBody_quote (taken rest : List Char) :
    stringBody (.ofTaken taken) ('"' :: rest) = some (some taken.reverse, rest) := rfl

/-- A character that needs no escape stands for itself. -/
theorem stringBody_plain {c : Char} (noQuote : c ≠ '"') (noBackslash : c ≠ '\\')
    (shows : 32 ≤ c.toNat) (part : StringPart) (rest : List Char) :
    stringBody part (c :: rest) = stringBody (part.add c) rest := by
  rw [stringBody]
  · rw [if_neg (Nat.not_lt.mpr shows)]
  · exact noQuote
  · intro _ _ _ _ _ isBackslash
    exact absurd isBackslash noBackslash
  · intro _ _ isBackslash
    exact absurd isBackslash noBackslash

private theorem stringBody_short {c plain : Char} (escape : shortEscape? c = some plain)
    (part : StringPart) (rest : List Char) :
    stringBody part ('\\' :: c :: rest) = stringBody (part.add plain) rest := by
  have noUnit : c ≠ 'u' := by
    rintro rfl
    simp [shortEscape?] at escape
  rw [stringBody]
  · rw [escape]
  · intro _ _ _ _ _ isUnit
    exact absurd isUnit noUnit

private theorem stringBody_unit {a b c d : Char} {unit : Nat}
    (isUnit : hexUnit? a b c d = some unit) (part : StringPart) (rest : List Char) :
    stringBody part ('\\' :: 'u' :: a :: b :: c :: d :: rest) =
      stringBody (part.addUnit unit) rest := by
  rw [stringBody, isUnit]

/-- The unit written for a control is that control. -/
theorem hexUnit?_control {n : Nat} (control : n < 32) :
    hexUnit? '0' '0' (hexDigit (n / 16)) (hexDigit (n % 16)) = some n := by
  have all : ∀ n : Fin 32,
      hexUnit? '0' '0' (hexDigit (n.val / 16)) (hexDigit (n.val % 16)) = some n.val := by
    decide
  exact all ⟨n, control⟩

private theorem addUnit_control {c : Char} (control : c.toNat < 32) (part : StringPart) :
    part.addUnit c.toNat = part.add c := by
  have noHigh : isHighSurrogate c.toNat = false := by
    simp only [isHighSurrogate, Bool.and_eq_false_iff, decide_eq_false_iff_not]
    omega
  have noLow : isLowSurrogate c.toNat = false := by
    simp only [isLowSurrogate, Bool.and_eq_false_iff, decide_eq_false_iff_not]
    omega
  simp [StringPart.addUnit, noHigh, noLow, Char.ofNat_toNat]

theorem eq_of_toNat_eq {c : Char} {n : Nat} (same : c.toNat = n) : c = Char.ofNat n := by
  rw [← same, Char.ofNat_toNat]

/-- A character is written as a backslash and a letter, as the number of a control,
or as itself. -/
theorem escapeChar_cases (c : Char) :
    (∃ letter, shortEscape? letter = some c ∧ escapeChar c = ['\\', letter]) ∨
      (c.toNat < 32 ∧ escapeChar c =
        ['\\', 'u', '0', '0', hexDigit (c.toNat / 16), hexDigit (c.toNat % 16)]) ∨
      (c ≠ '"' ∧ c ≠ '\\' ∧ 32 ≤ c.toNat ∧ escapeChar c = [c]) := by
  by_cases isQuote : c = '"'
  · subst isQuote
    exact .inl ⟨'"', rfl, rfl⟩
  by_cases isBackslash : c = '\\'
  · subst isBackslash
    exact .inl ⟨'\\', rfl, rfl⟩
  by_cases isBack : c.toNat = 8
  · obtain rfl := eq_of_toNat_eq isBack
    exact .inl ⟨'b', rfl, rfl⟩
  by_cases isTab : c.toNat = 9
  · obtain rfl := eq_of_toNat_eq isTab
    exact .inl ⟨'t', rfl, rfl⟩
  by_cases isLine : c.toNat = 10
  · obtain rfl := eq_of_toNat_eq isLine
    exact .inl ⟨'n', rfl, rfl⟩
  by_cases isFeed : c.toNat = 12
  · obtain rfl := eq_of_toNat_eq isFeed
    exact .inl ⟨'f', rfl, rfl⟩
  by_cases isReturn : c.toNat = 13
  · obtain rfl := eq_of_toNat_eq isReturn
    exact .inl ⟨'r', rfl, rfl⟩
  by_cases control : c.toNat < 32
  · refine .inr (.inl ⟨control, ?_⟩)
    simp [escapeChar, isQuote, isBackslash, isBack, isTab, isLine, isFeed, isReturn, control]
  · refine .inr (.inr ⟨isQuote, isBackslash, Nat.le_of_not_lt control, ?_⟩)
    simp [escapeChar, isQuote, isBackslash, isBack, isTab, isLine, isFeed, isReturn, control]

/-- A written character is read as that character. -/
theorem stringBody_escapeChar (part : StringPart) (c : Char) (rest : List Char) :
    stringBody part (escapeChar c ++ rest) = stringBody (part.add c) rest := by
  rcases escapeChar_cases c with
    ⟨letter, escape, written⟩ | ⟨control, written⟩ | ⟨noQuote, noBackslash, shows, written⟩
  · rw [written]
    exact stringBody_short escape part rest
  · have isUnit := hexUnit?_control control
    rw [written, ← addUnit_control control]
    exact stringBody_unit isUnit part rest
  · rw [written]
    exact stringBody_plain noQuote noBackslash shows part rest

private theorem stringBody_escaped (taken text rest : List Char) :
    stringBody (.ofTaken taken) (text.flatMap escapeChar ++ '"' :: rest) =
      some (some (taken.reverse ++ text), rest) := by
  induction text generalizing taken with
  | nil => rw [List.flatMap_nil, List.nil_append, stringBody_quote, List.append_nil]
  | cons c text inductionHypothesis =>
      rw [List.flatMap_cons, List.append_assoc, stringBody_escapeChar, StringPart.add_ofTaken,
        inductionHypothesis, List.reverse_cons, List.append_assoc, List.singleton_append]

theorem token?_quote (text : String) (rest : List Char) :
    token? (quote text ++ rest) = some (some (.string (some text)), rest) := by
  have body : stringBody .empty (text.toList.flatMap escapeChar ++ '"' :: rest) =
      some (some text.toList, rest) :=
    stringBody_escaped [] text.toList rest
  have opened : quote text ++ rest = '"' :: (text.toList.flatMap escapeChar ++ '"' :: rest) := by
    simp [quote]
  rw [opened]
  change (stringBody .empty _).map _ = _
  rw [body, Option.map_some]
  change some (some (Token.string (some (String.ofList text.toList))), rest) = _
  rw [String.ofList_toList]

/-! ### Digits -/

/-- The values of some digits. -/
def digitValues (text : List Char) : List Nat := text.map fun c => c.toNat - 48

private theorem digit?_of_digit {c : Char} (digit : Text.isDecimalDigit c = true) :
    digit? c = some (c.toNat - 48) := by
  have bounds := (Text.isDecimalDigit_iff c).mp digit
  have within : '0' ≤ c ∧ c ≤ '9' := bounds
  rw [digit?, if_pos within]

/-- Whether a number may end before this text. -/
def EndsNumber : List Char → Prop
  | [] => True
  | c :: _ => digit? c = none ∧ c ≠ '.' ∧ c ≠ 'e' ∧ c ≠ 'E'

instance (text : List Char) : Decidable (EndsNumber text) :=
  match text with
  | [] => isTrue trivial
  | c :: _ => inferInstanceAs (Decidable (digit? c = none ∧ c ≠ '.' ∧ c ≠ 'e' ∧ c ≠ 'E'))

private theorem digits_of_ends {rest : List Char} (ends : EndsNumber rest) :
    digits rest = ([], rest) := by
  cases rest with
  | nil => rfl
  | cons c rest => rw [digits, ends.1]

private theorem digits_append {text : List Char}
    (allDigits : ∀ c ∈ text, Text.isDecimalDigit c = true)
    {rest : List Char} (ends : EndsNumber rest) :
    digits (text ++ rest) = (digitValues text, rest) := by
  induction text with
  | nil => exact digits_of_ends ends
  | cons c text inductionHypothesis =>
      rw [List.forall_mem_cons] at allDigits
      rw [List.cons_append, digits, digit?_of_digit allDigits.1, inductionHypothesis allDigits.2]
      rfl

private theorem fractionPart?_of_ends {rest : List Char} (ends : EndsNumber rest) :
    fractionPart? rest = some (none, rest) := by
  unfold fractionPart?
  split
  · exact absurd rfl ends.2.1
  · rfl

private theorem exponentPart?_of_ends {rest : List Char} (ends : EndsNumber rest) :
    exponentPart? rest = some (none, rest) := by
  unfold exponentPart?
  split
  case h_7 => rfl
  case h_1 | h_3 | h_5 => exact absurd rfl ends.2.2.1
  case h_2 | h_4 | h_6 => exact absurd rfl ends.2.2.2

/-! ### Significands -/

/-- The number that digits make behind a significand. -/
def valueAfter (significand : Nat) (found : List Nat) : Nat :=
  found.foldl (fun value d => value * 10 + d) significand

private theorem le_valueAfter (significand : Nat) (found : List Nat) :
    significand ≤ valueAfter significand found := by
  induction found generalizing significand with
  | nil => exact Nat.le_refl _
  | cons d found inductionHypothesis =>
      have rest : significand * 10 + d ≤ valueAfter (significand * 10 + d) found :=
        inductionHypothesis _
      change significand ≤ valueAfter (significand * 10 + d) found
      omega

/-- Digits whose number fits are all taken. -/
theorem absorb_of_fits {significand : Nat} {found : List Nat}
    (fits : valueAfter significand found < significandLimit) :
    absorb significand found = (valueAfter significand found, found.length) := by
  induction found generalizing significand with
  | nil => rfl
  | cons d found inductionHypothesis =>
      have later : valueAfter (significand * 10 + d) found < significandLimit := fits
      have first : significand * 10 + d < significandLimit :=
        Nat.lt_of_le_of_lt (le_valueAfter _ found) later
      rw [absorb, if_pos first, inductionHypothesis later]
      rfl

private theorem valueAfter_digitValues (text : List Char) :
    valueAfter 0 (digitValues text) = Text.decimalValue text := by
  rw [valueAfter, digitValues, List.foldl_map]
  rfl

/-! ### Numbers -/

/-- A positive number is not written with a zero in front. -/
theorem head?_toDigits_ne_zero {n : Nat} (positive : 0 < n) :
    (Nat.toDigits 10 n).head? ≠ some '0' := by
  induction n using Nat.strongRecOn with
  | _ n inductionHypothesis =>
      rw [Nat.toDigits_eq_if (by decide)]
      split
      case isTrue small =>
        have value := Nat.toNat_digitChar_of_lt_ten small
        intro isZero
        have isZero : Nat.digitChar n = '0' := Option.some.inj isZero
        rw [isZero] at value
        have : 48 = 48 + n := value
        omega
      case isFalse large =>
        have front := inductionHypothesis (n / 10) (by omega) (by omega)
        have filled : Nat.toDigits 10 (n / 10) ≠ [] := Nat.toDigits_ne_nil
        rw [List.head?_append, List.head?_eq_some_head filled, Option.some_or]
        rw [List.head?_eq_some_head filled] at front
        exact front

private theorem decimalDigit_of_natText {n : Nat} {c : Char} {others : List Char}
    (written : natText n = c :: others) : Text.isDecimalDigit c = true := by
  have member : c ∈ natText n := by
    rw [written]
    exact List.mem_cons_self
  exact Text.decimalDigit_of_mem member

/-- A zero in front of other digits is no number, but no number is written so. -/
theorem digitValues_natText_ne (n : Nat) (second : Nat) (more : List Nat) :
    digitValues (natText n) ≠ 0 :: second :: more := by
  intro leading
  obtain ⟨c, others, written, isZero, isOther⟩ := List.map_eq_cons_iff.mp leading
  have digit : Text.isDecimalDigit c = true := decimalDigit_of_natText written
  have bounds := (Text.isDecimalDigit_iff c).mp digit
  have zero : c = '0' := eq_of_toNat_eq (n := 48) (by omega)
  cases n with
  | zero =>
      have alone : others = [] := (List.cons.inj written).2.symm
      rw [alone] at isOther
      contradiction
  | succ n =>
      refine head?_toDigits_ne_zero (Nat.succ_pos n) ?_
      change (natText (n + 1)).head? = some '0'
      rw [written, zero]
      rfl

private theorem wholePart?_natText (n : Nat) {rest : List Char} (ends : EndsNumber rest) :
    wholePart? (natText n ++ rest) = some (digitValues (natText n), rest) := by
  have found : digits (natText n ++ rest) = (digitValues (natText n), rest) :=
    digits_append (fun _ member => Text.decimalDigit_of_mem member) ends
  have filled : natText n ≠ [] := Nat.toDigits_ne_nil
  unfold wholePart?
  rw [found]
  split
  case h_1 none =>
    have empty : digitValues (natText n) = [] := congrArg Prod.fst none
    exact absurd (List.map_eq_nil_iff.mp empty) filled
  case h_2 leading => exact absurd (congrArg Prod.fst leading) (digitValues_natText_ne n _ _)
  case h_3 => rfl

/-- A lone run of digits that fits stays an integer. -/
theorem number?_written {n : Nat} (fits : n < significandLimit) (negative : Bool) :
    Written.number? ⟨negative, digitValues (natText n), none, none⟩ =
      some (integer negative n) := by
  have value : valueAfter 0 (digitValues (natText n)) = n := by
    rw [valueAfter_digitValues]
    exact Text.decimalValue_toDigits n
  have taken : absorb 0 (digitValues (natText n)) = (n, (digitValues (natText n)).length) := by
    rw [absorb_of_fits (by rw [value]; exact fits), value]
  simp [Written.number?, taken]

private theorem number?_natText {n : Nat} (fits : n < significandLimit) (negative : Bool)
    {rest : List Char} (ends : EndsNumber rest) :
    number? negative (natText n ++ rest) = some (some (integer negative n), rest) := by
  simp [number?, wholePart?_natText n ends, fractionPart?_of_ends ends,
    exponentPart?_of_ends ends, number?_written fits]

/-- A text that starts with a digit is read as a number. -/
theorem token?_of_digit {c : Char} (digit : Text.isDecimalDigit c = true) (rest : List Char) :
    token? (c :: rest) =
      (number? false (c :: rest)).map fun (value, after) => (some (.number value), after) := by
  have bounds := (Text.isDecimalDigit_iff c).mp digit
  obtain ⟨n, isCode⟩ : ∃ n, c.toNat = n := ⟨_, rfl⟩
  rw [isCode] at bounds
  obtain rfl := eq_of_toNat_eq isCode
  obtain ⟨low, high⟩ := bounds
  interval_cases n <;> rfl

/-- Whether a number is written as an integer. -/
def Number.Whole : Number → Prop
  | .natural _ | .negative _ => True
  | .real _ => False

theorem token?_number {number : Number} (whole : number.Whole) {rest : List Char}
    (ends : EndsNumber rest) :
    token? (number.text ++ rest) = some (some (.number (some number)), rest) := by
  cases number with
  | natural value =>
      have isRead : number? false (natText value.toNat ++ rest) =
          some (some (.natural value), rest) := by
        rw [number?_natText value.toNat_lt false ends]
        simp [integer]
      obtain ⟨c, others, written⟩ := List.exists_cons_of_ne_nil
        (Nat.toDigits_ne_nil : Nat.toDigits 10 value.toNat ≠ [])
      have digit : Text.isDecimalDigit c = true := decimalDigit_of_natText written
      change token? (natText value.toNat ++ rest) = _
      rw [show natText value.toNat = c :: others from written] at isRead ⊢
      rw [List.cons_append, token?_of_digit digit, ← List.cons_append, isRead]
      rfl
  | negative below =>
      have small : below.toNat + 1 ≤ powerOf 2 63 := below.isLt
      have fits : below.toNat + 1 < significandLimit := Nat.lt_of_le_of_lt small (by decide)
      have isInteger : integer true (below.toNat + 1) = .negative below := by
        simp [integer, small]
      change (number? true (natText (below.toNat + 1) ++ rest)).map _ = _
      rw [number?_natText fits true ends, isInteger]
      rfl
  | real value => exact absurd whole id

end EventConsole.Json
