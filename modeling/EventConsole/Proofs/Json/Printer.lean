import EventConsole.Json.Printer
import EventConsole.Proofs.Text.Decimal

/-!
Contract: the lines of the pretty text of a value.

No line holds a control character: strings escape theirs, and numbers are
written in a few visible characters. So the lines are what the pretty text falls
into at its line breaks.

Owns: the characters of numbers, strings and lines, and the text against its
lines.
-/

namespace EventConsole.Json

/-- A text without control characters. -/
def Visible (text : List Char) : Prop := ∀ c ∈ text, 32 ≤ c.toNat

-- Decided along the text, and not for every character that there is.
instance (text : List Char) : Decidable (Visible text) :=
  decidable_of_iff (text.all fun c => 32 ≤ c.toNat) (by simp [Visible])

theorem visible_cons {c : Char} {text : List Char} (first : 32 ≤ c.toNat) (rest : Visible text) :
    Visible (c :: text) :=
  List.forall_mem_cons.mpr ⟨first, rest⟩

theorem visible_append {text more : List Char} (first : Visible text) (rest : Visible more) :
    Visible (text ++ more) :=
  List.forall_mem_append.mpr ⟨first, rest⟩

theorem visible_replicate {c : Char} (shows : 32 ≤ c.toNat) (count : Nat) :
    Visible (List.replicate count c) := by
  intro other member
  rw [List.eq_of_mem_replicate member]
  exact shows

/-! ### Numbers -/

theorem visible_toDigits (n : Nat) : Visible (Nat.toDigits 10 n) := by
  intro c member
  have bounds := (Text.isDecimalDigit_iff c).mp (Text.decimalDigit_of_mem member)
  omega

private theorem visible_positional {digits : List Char} (shows : Visible digits) (lead : Int) :
    Visible (Binary64.positional digits lead) := by
  have zero : 32 ≤ '0'.toNat := by decide
  have point : 32 ≤ '.'.toNat := by decide
  unfold Binary64.positional
  split
  · exact visible_cons zero (visible_cons point
      (visible_append (visible_replicate zero _) shows))
  · dsimp only
    split
    · exact visible_append (visible_append shows (visible_replicate zero _)) (by decide)
    · exact visible_append (fun c member => shows c (List.mem_of_mem_take member))
        (visible_cons point fun c member => shows c (List.mem_of_mem_drop member))

private theorem visible_scientific {digits : List Char} (shows : Visible digits) (lead : Int) :
    Visible (Binary64.scientific digits lead) := by
  have sign : 32 ≤ (if lead < 0 then '-' else '+').toNat := by split <;> decide
  have exponent : Visible ('e' :: (if lead < 0 then '-' else '+') ::
      Binary64.digitText lead.natAbs) :=
    visible_cons (by decide) (visible_cons sign (visible_toDigits _))
  unfold Binary64.scientific
  split
  · exact visible_append (visible_cons (shows _ (by simp)) (visible_cons (by decide)
      fun c member => shows c (List.mem_cons_of_mem _ member))) exponent
  · exact visible_append shows exponent

private theorem visible_real (x : Binary64) : Visible x.text := by
  have body : Visible (if x.isZero then ['0', '.', '0']
      else
        let decimal := x.shortest
        let digits := Binary64.digitText decimal.digits
        let lead := decimal.exponent + digits.length - 1
        if -5 ≤ lead ∧ lead < 16 then Binary64.positional digits lead
        else Binary64.scientific digits lead) := by
    split
    · decide
    · dsimp only
      split
      · exact visible_positional (visible_toDigits _) _
      · exact visible_scientific (visible_toDigits _) _
  unfold Binary64.text
  dsimp only
  split
  · exact visible_cons (by decide) body
  · exact body

private theorem visible_number (number : Number) : Visible number.text := by
  cases number with
  | natural value => exact visible_toDigits _
  | negative below => exact visible_cons (by decide) (visible_toDigits _)
  | real value => exact visible_real value

/-! ### Strings -/

theorem visible_hexDigit {n : Nat} (small : n < 16) : 32 ≤ (hexDigit n).toNat := by
  have all : ∀ n : Fin 16, 32 ≤ (hexDigit n.val).toNat := by decide
  exact all ⟨n, small⟩

private theorem visible_escapeChar (c : Char) : Visible (escapeChar c) := by
  unfold escapeChar
  split
  · decide
  split
  · decide
  split
  · decide
  split
  · decide
  split
  · decide
  split
  · decide
  split
  · decide
  split
  case isTrue control =>
    have digits : Visible [hexDigit (c.toNat / 16), hexDigit (c.toNat % 16)] :=
      visible_cons (visible_hexDigit (by omega))
        (visible_cons (visible_hexDigit (by omega)) (by decide))
    have opens : Visible ['\\', 'u', '0', '0'] := by decide
    exact visible_append opens digits
  case isFalse shows => exact visible_cons (Nat.le_of_not_lt shows) (by decide)

theorem visible_quote (text : String) : Visible (quote text) := by
  refine visible_append (visible_cons (by decide) ?_) (by decide)
  intro c member
  obtain ⟨source, _, isEscaped⟩ := List.mem_flatMap.mp member
  exact visible_escapeChar source c isEscaped

namespace Value

private theorem visible_scalarText (value : Value) : Visible value.scalarText := by
  cases value with
  | number number => exact visible_number number
  | string text => exact visible_quote text
  | boolean value => cases value <;> decide
  | null => decide
  | array => exact show Visible ['[', ']'] by decide
  | object => exact show Visible ['\x7b', '\x7d'] by decide

/-! ### Lines -/

/-- Lines without control characters. -/
def LinesVisible (lines : List (List Char)) : Prop := ∀ line ∈ lines, Visible line

theorem visible_indent (depth : Nat) : Visible (indent depth) :=
  visible_replicate (by decide) _

theorem linesVisible_openFirst {head : List Char} {lines : List (List Char)}
    (shows : Visible head) (linesShow : LinesVisible lines) :
    LinesVisible (openFirst head lines) := by
  cases lines with
  | nil => exact List.forall_mem_singleton.mpr shows
  | cons line rest =>
      obtain ⟨first, others⟩ := List.forall_mem_cons.mp linesShow
      exact List.forall_mem_cons.mpr ⟨visible_append shows first, others⟩

private theorem linesVisible_closeLast {lines : List (List Char)} (linesShow : LinesVisible lines) :
    LinesVisible (closeLast lines) := by
  fun_induction closeLast lines with
  | case1 => exact List.forall_mem_singleton.mpr (by decide)
  | case2 line =>
      have shows := List.forall_mem_singleton.mp linesShow
      exact List.forall_mem_singleton.mpr (visible_append shows (by decide))
  | case3 line rest _ inductionHypothesis =>
      obtain ⟨first, others⟩ := List.forall_mem_cons.mp linesShow
      exact List.forall_mem_cons.mpr ⟨first, inductionHypothesis others⟩

/-- Lines between a line that opens a container and the line that closes it. -/
theorem linesVisible_enclosed {first last : List Char} {lines : List (List Char)}
    (opens : Visible first) (linesShow : LinesVisible lines) (closes : Visible last) :
    LinesVisible (first :: lines ++ [last]) :=
  List.forall_mem_append.mpr
    ⟨List.forall_mem_cons.mpr ⟨opens, linesShow⟩, List.forall_mem_singleton.mpr closes⟩

mutual

theorem linesVisible_linesAt (depth : Nat) : ∀ value, LinesVisible (linesAt depth value)
  | .array (item :: rest) =>
      linesVisible_enclosed (by decide) (linesVisible_itemLines (depth + 1) (item :: rest))
        (visible_append (visible_indent depth) (by decide))
  | .object (member :: rest) =>
      linesVisible_enclosed (by decide) (linesVisible_memberLines (depth + 1) (member :: rest))
        (visible_append (visible_indent depth) (by decide))
  | .array [] | .object [] | .null | .boolean _ | .number _ | .string _ =>
      List.forall_mem_singleton.mpr (visible_scalarText _)

private theorem linesVisible_itemLines (depth : Nat) : ∀ items, LinesVisible (itemLines depth items)
  | [] => by simp [itemLines, LinesVisible]
  | [item] => linesVisible_openFirst (visible_indent depth) (linesVisible_linesAt depth item)
  | item :: next :: rest =>
      List.forall_mem_append.mpr
        ⟨linesVisible_closeLast
            (linesVisible_openFirst (visible_indent depth) (linesVisible_linesAt depth item)),
          linesVisible_itemLines depth (next :: rest)⟩

private theorem linesVisible_memberLines (depth : Nat) :
    ∀ members, LinesVisible (memberLines depth members)
  | [] => by simp [memberLines, LinesVisible]
  | [(key, value)] =>
      linesVisible_openFirst
        (visible_append (visible_append (visible_indent depth) (visible_quote key)) (by decide))
        (linesVisible_linesAt depth value)
  | (key, value) :: next :: rest =>
      List.forall_mem_append.mpr
        ⟨linesVisible_closeLast
            (linesVisible_openFirst
              (visible_append (visible_append (visible_indent depth) (visible_quote key))
                (by decide))
              (linesVisible_linesAt depth value)),
          linesVisible_memberLines depth (next :: rest)⟩

end

/-! ### Text and lines -/

theorem joinLines_eq_intercalate (lines : List (List Char)) :
    joinLines lines = ['\n'].intercalate lines := by
  fun_induction joinLines lines with
  | case1 => rfl
  | case2 line => rw [List.intercalate_singleton]
  | case3 line rest notLast inductionHypothesis =>
      rw [inductionHypothesis, List.intercalate_cons_of_ne_nil notLast, List.append_assoc]
      rfl

private theorem toList_pretty (value : Value) :
    value.pretty.toList = ['\n'].intercalate value.prettyLines := by
  rw [pretty, String.toList_ofList, joinLines_eq_intercalate]

theorem prettyLines_ne_nil (value : Value) : value.prettyLines ≠ [] := by
  unfold prettyLines linesAt
  split <;> simp

/-- The lines are what the text falls into at its line breaks. -/
theorem splitOn_pretty (value : Value) : value.pretty.toList.splitOn '\n' = value.prettyLines := by
  rw [toList_pretty]
  refine List.splitOn_intercalate '\n' (fun line member breaks => ?_) (prettyLines_ne_nil value)
  exact absurd (linesVisible_linesAt 0 value line member '\n' breaks) (by decide)

end Value

end EventConsole.Json
