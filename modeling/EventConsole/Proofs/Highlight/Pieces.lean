import EventConsole.Highlight
import EventConsole.Proofs.Json.Token

/-!
Contract: pieces of a line that give their tokens wherever they stand.

A token is told from its first characters alone, and what comes before it must not
run into it. So a piece of text is known by the tokens that it gives in front of
whatever follows: a word needs an edge before it, and strings and numbers need to
know that a part of a container ends behind them.

Owns: the classes of tokens, pieces of text one after another, and the pieces that
strings, keys, numbers and words are.

Does not own: how lines are put together.
-/

namespace EventConsole.Highlight

open Json (quote escapeChar hexDigit)

/-! ### Classes of tokens -/

/-- What stands between the tokens of a value. -/
def layout : List Char := ['\x7b', '\x7d', '[', ']', ',', ' ']

/-- A text of layout alone. -/
def IsLayout (text : List Char) : Prop := ∀ c ∈ text, c ∈ layout

-- Decided along the text, and not for every character that there is.
instance (text : List Char) : Decidable (IsLayout text) :=
  decidable_of_iff (text.all fun c => layout.contains c) (by simp [IsLayout])

/-- The marked tokens among some tokens, and that the others hold layout only. -/
structure Classes (tokens marked : TokenLine) : Prop where
  marked : (tokens.filter fun token => token.kind ≠ .plain) = marked
  plain : ∀ token ∈ tokens, token.kind = .plain → IsLayout token.text

theorem Classes.append {tokens more marked after : TokenLine} (first : Classes tokens marked)
    (second : Classes more after) : Classes (tokens ++ more) (marked ++ after) where
  marked := by rw [List.filter_append, first.marked, second.marked]
  plain := List.forall_mem_append.mpr ⟨first.plain, second.plain⟩

theorem classes_nil : Classes [] [] := ⟨rfl, fun _ member => nomatch member⟩

private theorem classes_marked {kind : Kind} (marks : kind ≠ .plain) (text : List Char) :
    Classes [⟨kind, text⟩] [⟨kind, text⟩] where
  marked := by simp [marks]
  plain := List.forall_mem_singleton.mpr fun isPlain => absurd isPlain marks

private theorem classes_flush {plain : List Char} (clean : IsLayout plain) :
    Classes (flush plain) [] := by
  cases plain with
  | nil => exact classes_nil
  | cons c plain =>
      refine ⟨rfl, List.forall_mem_singleton.mpr fun _ other member => ?_⟩
      exact clean other (List.mem_reverse.mp member)

/-! ### Texts before other texts -/

/-- Whether a part of a container may end before this text. -/
def EndsPart (text : List Char) : Prop := ∀ c ∈ text.head?, c = ','

/-- Whether a text gives some marked tokens, from a place where a word may start
or a part ends, and with nothing but layout collected. -/
def Falls (text : List Char) (marked : TokenLine) : Prop :=
  ∀ previous plain, isEdge previous = true ∨ EndsPart text → IsLayout plain →
    Classes (tokensFrom previous 0 plain text) marked

theorem falls_nil : Falls [] [] := fun _ _ _ clean => classes_flush clean

/-- Layout is plain, and a word may start behind it. -/
theorem plain_of_layout {c : Char} (isLayout : c ∈ layout) (previous : Option Char)
    (rest : List Char) :
    tokenAt? previous (c :: rest) = none ∧ isEdge (some c) = true := by
  simp only [layout, List.mem_cons, List.not_mem_nil, or_false] at isLayout
  rcases isLayout with rfl | rfl | rfl | rfl | rfl | rfl
  all_goals exact ⟨rfl, by decide⟩

theorem falls_of_layout {c : Char} {rest : List Char} {marked : TokenLine}
    (isLayout : c ∈ layout) (falls : Falls rest marked) : Falls (c :: rest) marked := by
  intro previous plain _ clean
  obtain ⟨noToken, edge⟩ := plain_of_layout isLayout previous rest
  rw [tokensFrom, noToken]
  exact falls (some c) (c :: plain) (.inl edge) (List.forall_mem_cons.mpr ⟨isLayout, clean⟩)

/-- The rest of a token is passed over. -/
theorem tokensFrom_taken (previous : Option Char) (plain taken rest : List Char) :
    tokensFrom previous taken.length plain (taken ++ rest) =
      tokensFrom (taken.getLast?.or previous) 0 plain rest := by
  induction taken generalizing previous with
  | nil => rfl
  | cons c taken inductionHypothesis =>
      rw [List.length_cons, List.cons_append, tokensFrom, inductionHypothesis, List.getLast?_cons]
      cases taken.getLast? <;> rfl

theorem falls_of_token {c : Char} {others rest : List Char} {kind : Kind} {after : TokenLine}
    (marks : kind ≠ .plain) (notComma : c ≠ ',')
    (isToken : ∀ previous, isEdge previous = true →
      tokenAt? previous (c :: (others ++ rest)) = some (kind, others.length + 1))
    (goesOn : isEdge (others.getLast?.or (some c)) = true ∨ EndsPart rest)
    (falls : Falls rest after) :
    Falls (c :: (others ++ rest)) (⟨kind, c :: others⟩ :: after) := by
  intro previous plain starts clean
  have edge : isEdge previous = true := by
    rcases starts with edge | ends
    · exact edge
    · exact absurd (ends c rfl) notComma
  have taken : (c :: (others ++ rest)).take (others.length + 1) = c :: others := by simp
  rw [tokensFrom, isToken previous edge]
  dsimp only
  rw [taken, Nat.add_sub_cancel, tokensFrom_taken]
  exact (classes_flush clean).append
    ((classes_marked marks _).append (falls _ [] goesOn fun _ member => nomatch member))

/-! ### Pieces of a line -/

/-- Whether a piece of text gives its tokens whatever follows it. -/
def Delimits (text : List Char) (marked : TokenLine) : Prop :=
  ∀ rest after, Falls rest after → Falls (text ++ rest) (marked ++ after)

/-- Whether a piece of text gives its tokens where a part may end behind it. -/
def Scans (text : List Char) (marked : TokenLine) : Prop :=
  ∀ rest after, EndsPart rest → Falls rest after → Falls (text ++ rest) (marked ++ after)

section Pieces

variable {first second : List Char} {marked after : TokenLine}

theorem Delimits.scans (delimits : Delimits first marked) : Scans first marked :=
  fun rest after _ falls => delimits rest after falls

theorem Delimits.append_scans (head : Delimits first marked) (tail : Scans second after) :
    Scans (first ++ second) (marked ++ after) := by
  intro rest later ends falls
  rw [List.append_assoc, List.append_assoc]
  exact head _ _ (tail rest later ends falls)

theorem Delimits.append (head : Delimits first marked) (tail : Delimits second after) :
    Delimits (first ++ second) (marked ++ after) := by
  intro rest later falls
  rw [List.append_assoc, List.append_assoc]
  exact head _ _ (tail rest later falls)

theorem delimits_layout {text : List Char} (isLayout : IsLayout text) :
    Delimits text [] := by
  intro rest after falls
  induction text with
  | nil => exact falls
  | cons c text inductionHypothesis =>
      obtain ⟨first, others⟩ := List.forall_mem_cons.mp isLayout
      exact falls_of_layout first (inductionHypothesis others)

/-- A comma ends every part. -/
theorem Scans.comma (scans : Scans first marked) : Scans (first ++ [',']) marked := by
  intro rest after _ falls
  rw [List.append_assoc]
  apply scans
  · exact fun c isFirst => (Option.some.inj isFirst).symm
  · exact falls_of_layout (by decide) falls

/-- A token that is told from its own characters where a part ends behind it. -/
theorem scans_token {c : Char} {others : List Char} {kind : Kind} (marks : kind ≠ .plain)
    (notComma : c ≠ ',')
    (isToken : ∀ previous rest, isEdge previous = true → EndsPart rest →
      tokenAt? previous (c :: (others ++ rest)) = some (kind, others.length + 1)) :
    Scans (c :: others) [⟨kind, c :: others⟩] :=
  fun rest _ ends falls =>
    falls_of_token marks notComma (fun previous edge => isToken previous rest edge ends)
      (.inr ends) falls

end Pieces

/-! ### Strings -/

theorem quotedLength_plain {c : Char} (noQuote : c ≠ '"') (noBackslash : c ≠ '\\')
    (rest : List Char) : quotedLength (c :: rest) = quotedLength rest + 1 := by
  rw [quotedLength]
  · exact noQuote
  · intro _ _ isBackslash
    exact absurd isBackslash noBackslash

private theorem hexDigit_plain {n : Nat} (small : n < 16) :
    hexDigit n ≠ '"' ∧ hexDigit n ≠ '\\' := by
  have all : ∀ n : Fin 16, hexDigit n.val ≠ '"' ∧ hexDigit n.val ≠ '\\' := by decide
  exact all ⟨n, small⟩

/-- A written character is passed over as a whole. -/
theorem quotedLength_escapeChar (c : Char) (rest : List Char) :
    quotedLength (escapeChar c ++ rest) = quotedLength rest + (escapeChar c).length := by
  rcases Json.escapeChar_cases c with
    ⟨letter, -, written⟩ | ⟨control, written⟩ | ⟨noQuote, noBackslash, -, written⟩
  · rw [written]
    rfl
  · obtain ⟨highNoQuote, highNoBackslash⟩ := hexDigit_plain (show c.toNat / 16 < 16 by omega)
    obtain ⟨lowNoQuote, lowNoBackslash⟩ := hexDigit_plain (show c.toNat % 16 < 16 by omega)
    rw [written]
    change quotedLength ('0' :: '0' :: hexDigit _ :: hexDigit _ :: rest) + 2 = _
    rw [quotedLength_plain (by decide) (by decide), quotedLength_plain (by decide) (by decide),
      quotedLength_plain highNoQuote highNoBackslash,
      quotedLength_plain lowNoQuote lowNoBackslash]
    rfl
  · rw [written]
    exact quotedLength_plain noQuote noBackslash rest

/-- A written string ends at its own closing quote. -/
theorem quotedLength_escaped (text rest : List Char) :
    quotedLength (text.flatMap escapeChar ++ '"' :: rest) =
      (text.flatMap escapeChar).length + 1 := by
  induction text with
  | nil => rfl
  | cons c text inductionHypothesis =>
      rw [List.flatMap_cons, List.append_assoc, quotedLength_escapeChar, inductionHypothesis,
        List.length_append]
      omega

/-- What a string is depends on what follows its closing quote. -/
theorem stringAt_escaped (text rest : List Char) :
    stringAt (text.flatMap escapeChar ++ '"' :: rest) =
      let gap := (rest.takeWhile Text.isBlank).length
      if (rest.drop gap).head? = some ':' then
        (.key, (text.flatMap escapeChar).length + 1 + gap + 2)
      else (.string, (text.flatMap escapeChar).length + 1 + 1) := by
  have after (written : List Char) :
      (written ++ '"' :: rest).drop (written.length + 1) = rest := by simp
  unfold stringAt
  simp only [quotedLength_escaped, after]

theorem scans_quote (text : String) : Scans (quote text) [⟨.string, quote text⟩] := by
  apply scans_token (by decide) (by decide)
  intro previous rest _ ends
  have noGap : rest.takeWhile Text.isBlank = [] := by
    cases rest with
    | nil => rfl
    | cons c rest =>
        rw [ends c rfl]
        exact List.takeWhile_cons_of_neg (by decide)
  have noColon : rest.head? ≠ some ':' := by
    intro colon
    exact absurd (ends ':' colon) (by decide)
  change some (stringAt (text.toList.flatMap escapeChar ++ ['"'] ++ rest)) = _
  rw [List.append_assoc, List.singleton_append, stringAt_escaped]
  simp [noGap, noColon]

/-- A string before a colon is a key, and takes the colon along. -/
theorem delimits_name (key : String) :
    Delimits (quote key ++ [':', ' ']) [⟨.key, quote key ++ [':']⟩] := by
  intro rest after falls
  have spaced : Falls (' ' :: rest) after := falls_of_layout (by decide) falls
  have isText : quote key ++ [':', ' '] ++ rest =
      '"' :: ((key.toList.flatMap escapeChar ++ ['"', ':']) ++ ' ' :: rest) := by
    simp [quote]
  have isName : quote key ++ [':'] = '"' :: (key.toList.flatMap escapeChar ++ ['"', ':']) := by
    simp [quote]
  rw [isText, isName]
  refine falls_of_token (by decide) (by decide) (fun previous _ => ?isToken) (.inl ?edge) spaced
  case isToken =>
    change some (stringAt (key.toList.flatMap escapeChar ++ ['"', ':'] ++ ' ' :: rest)) = _
    rw [List.append_assoc, List.cons_append, stringAt_escaped]
    have colon : Text.isBlank ':' = false := by decide
    simp [colon]
  case edge =>
    rw [List.getLast?_append]
    show isEdge (some ':') = true
    decide

/-! ### Numbers -/

/-- A text that starts with a digit and holds nothing but parts of a number. -/
structure Unsigned (text : List Char) : Prop where
  starts : ∃ c others, text = c :: others ∧ isDigit c = true
  parts : ∀ c ∈ text, isNumberPart c = true

private theorem takeWhile_isNumberPart {text rest : List Char}
    (parts : ∀ c ∈ text, isNumberPart c = true) (ends : EndsPart rest) :
    (text ++ rest).takeWhile isNumberPart = text := by
  have noPart : rest.takeWhile isNumberPart = [] := by
    cases rest with
    | nil => rfl
    | cons c rest =>
        rw [ends c rfl]
        exact List.takeWhile_cons_of_neg (by decide)
  rw [List.takeWhile_append_of_pos parts, noPart, List.append_nil]

private theorem not_mark_of_digit {c : Char} (digit : isDigit c = true) : c ≠ '"' ∧ c ≠ ',' := by
  constructor
  · rintro rfl
    exact absurd digit (by decide)
  · rintro rfl
    exact absurd digit (by decide)

private theorem scans_unsigned {text : List Char} (unsigned : Unsigned text) :
    Scans text [⟨.number, text⟩] := by
  obtain ⟨⟨c, others, rfl, digit⟩, parts⟩ := unsigned
  obtain ⟨noQuote, noComma⟩ := not_mark_of_digit digit
  rw [List.forall_mem_cons] at parts
  apply scans_token (by decide) noComma
  intro previous rest _ ends
  rw [tokenAt?, if_neg noQuote, digit, Bool.true_or, if_pos rfl,
    takeWhile_isNumberPart parts.2 ends]

private theorem scans_negative {text : List Char} (unsigned : Unsigned text) :
    Scans ('-' :: text) [⟨.number, '-' :: text⟩] := by
  obtain ⟨⟨c, others, isText, digit⟩, parts⟩ := unsigned
  apply scans_token (by decide) (by decide)
  intro previous rest _ ends
  have starts : (text ++ rest).head?.any isDigit = true := by
    rw [isText]
    exact digit
  rw [tokenAt?, if_neg (by decide), starts, if_pos (by decide),
    takeWhile_isNumberPart parts ends]

section Shapes

variable {text more : List Char}

theorem Unsigned.append (unsigned : Unsigned text) (parts : ∀ c ∈ more, isNumberPart c = true) :
    Unsigned (text ++ more) := by
  obtain ⟨⟨c, others, rfl, digit⟩, textParts⟩ := unsigned
  exact ⟨⟨c, others ++ more, rfl, digit⟩, List.forall_mem_append.mpr ⟨textParts, parts⟩⟩

theorem unsigned_cons {c : Char} (digit : isDigit c = true)
    (parts : ∀ c ∈ more, isNumberPart c = true) : Unsigned (c :: more) where
  starts := ⟨c, more, rfl, digit⟩
  parts := List.forall_mem_cons.mpr ⟨by simp [isNumberPart, digit], parts⟩

private theorem parts_pointZero : ∀ c ∈ ['.', '0'], isNumberPart c = true :=
  List.forall_mem_cons.mpr ⟨by decide, List.forall_mem_singleton.mpr (by decide)⟩

private theorem parts_replicate (count : Nat) :
    ∀ c ∈ List.replicate count '0', isNumberPart c = true := by
  intro c member
  rw [List.eq_of_mem_replicate member]
  decide

theorem unsigned_toDigits (n : Nat) : Unsigned (Nat.toDigits 10 n) := by
  have allDigits : ∀ c ∈ Nat.toDigits 10 n, isDigit c = true := fun _ member =>
    Text.decimalDigit_of_mem member
  obtain ⟨c, others, written⟩ := List.exists_cons_of_ne_nil
    (Nat.toDigits_ne_nil : Nat.toDigits 10 n ≠ [])
  rw [written, List.forall_mem_cons] at allDigits
  rw [written]
  apply unsigned_cons allDigits.1
  intro other member
  simp [isNumberPart, allDigits.2 other member]

private theorem unsigned_positional (unsigned : Unsigned text) (lead : Int) :
    Unsigned (Binary64.positional text lead) := by
  unfold Binary64.positional
  split
  case h_1 below =>
    exact unsigned_cons (by decide) (List.forall_mem_append.mpr
      ⟨List.forall_mem_cons.mpr ⟨by decide, parts_replicate below⟩, unsigned.parts⟩)
  case h_2 whole =>
    dsimp only
    split
    · exact (unsigned.append (parts_replicate _)).append parts_pointZero
    · obtain ⟨⟨c, others, rfl, digit⟩, parts⟩ := unsigned
      rw [List.forall_mem_cons] at parts
      rw [List.take_succ_cons, List.drop_succ_cons]
      exact unsigned_cons digit (List.forall_mem_append.mpr
        ⟨fun c member => parts.2 c (List.mem_of_mem_take member),
          List.forall_mem_cons.mpr
            ⟨by decide, fun c member => parts.2 c (List.mem_of_mem_drop member)⟩⟩)

private theorem unsigned_scientific (unsigned : Unsigned text) (lead : Int) :
    Unsigned (Binary64.scientific text lead) := by
  have exponent : ∀ c ∈ 'e' :: (if lead < 0 then '-' else '+') ::
      Binary64.digitText lead.natAbs, isNumberPart c = true := by
    rw [List.forall_mem_cons, List.forall_mem_cons]
    refine ⟨by decide, ?_, (unsigned_toDigits _).parts⟩
    split <;> decide
  unfold Binary64.scientific
  split
  case h_1 first second rest =>
    obtain ⟨⟨c, others, isText, digit⟩, parts⟩ := unsigned
    obtain ⟨rfl, rfl⟩ := List.cons.inj isText
    rw [List.forall_mem_cons] at parts
    have mantissa : Unsigned (first :: '.' :: second :: rest) :=
      unsigned_cons digit (List.forall_mem_cons.mpr ⟨by decide, parts.2⟩)
    exact mantissa.append exponent
  case h_2 => exact unsigned.append exponent

end Shapes

private theorem scans_real (value : Binary64) : Scans value.text [⟨.number, value.text⟩] := by
  have body : Unsigned (if value.isZero then ['0', '.', '0']
      else
        let decimal := value.shortest
        let digits := Binary64.digitText decimal.digits
        let lead := decimal.exponent + digits.length - 1
        if -5 ≤ lead ∧ lead < 16 then Binary64.positional digits lead
        else Binary64.scientific digits lead) := by
    split
    · exact unsigned_cons (by decide) parts_pointZero
    · dsimp only
      split
      · exact unsigned_positional (unsigned_toDigits _) _
      · exact unsigned_scientific (unsigned_toDigits _) _
  unfold Binary64.text
  dsimp only
  split
  · exact scans_negative body
  · exact scans_unsigned body

theorem scans_number (number : Json.Number) : Scans number.text [⟨.number, number.text⟩] := by
  cases number with
  | natural value => exact scans_unsigned (unsigned_toDigits _)
  | negative below => exact scans_negative (unsigned_toDigits _)
  | real value => exact scans_real value

/-! ### Words -/

theorem edge_of_endsPart {rest : List Char} (ends : EndsPart rest) : isEdge rest.head? = true := by
  cases rest with
  | nil => rfl
  | cons c rest =>
      rw [List.head?_cons, ends c rfl]
      decide

/-- A word gives its token where no letter or digit is next to it. -/
theorem scans_word {word : List Char} {kind : Kind} (listed : (word, kind) ∈ words) :
    Scans word [⟨kind, word⟩] := by
  have listing : words =
      [(['t', 'r', 'u', 'e'], .boolean), (['f', 'a', 'l', 's', 'e'], .boolean),
        (['n', 'u', 'l', 'l'], .null)] := rfl
  simp only [listing, List.mem_cons, List.not_mem_nil, or_false, Prod.mk.injEq] at listed
  rcases listed with ⟨rfl, rfl⟩ | ⟨rfl, rfl⟩ | ⟨rfl, rfl⟩
  all_goals
    apply scans_token (by decide) (by decide)
    intro previous rest edge ends
    have noLetter := edge_of_endsPart ends
    rw [List.head?_eq_getElem?] at noLetter
    simp [tokenAt?, wordAt?, listing, isDigit, edge, noLetter]

end EventConsole.Highlight
