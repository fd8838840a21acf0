import EventConsole.Highlight
import EventConsole.Proofs.Json.Printer

/-!
Contract: cutting a line into tokens loses nothing.

Owns: what a token told at its start takes of its line, that the tokens of a line
join to the line, and what the token lines of a value join to.
-/

namespace EventConsole.Highlight

/-- The text of a line of tokens. -/
def lineText (tokens : TokenLine) : List Char := tokens.flatMap Token.text

@[simp] theorem lineText_nil : lineText [] = [] := rfl

@[simp] theorem lineText_cons (token : Token) (rest : TokenLine) :
    lineText (token :: rest) = token.text ++ lineText rest := rfl

@[simp] theorem lineText_append (tokens more : TokenLine) :
    lineText (tokens ++ more) = lineText tokens ++ lineText more :=
  List.flatMap_append

/-! ### Tokens told at their start -/

theorem quotedLength_le (text : List Char) : quotedLength text ≤ text.length := by
  fun_induction quotedLength text with
  | case1 => exact Nat.le_refl _
  | case2 rest => exact Nat.succ_le_succ (Nat.zero_le _)
  | case3 escaped rest inductionHypothesis =>
      rw [List.length_cons, List.length_cons]
      omega
  | case4 c rest _ _ inductionHypothesis =>
      rw [List.length_cons]
      omega

/-- A text starts with a token that is not plain. The token takes at least one
character, and ends within the text. -/
structure IsTold (text : List Char) (kind : Kind) (size : Nat) : Prop where
  marks : kind ≠ .plain
  positive : 0 < size
  within : size ≤ text.length

theorem IsTold.exists_size {text : List Char} {kind : Kind} {size : Nat}
    (told : IsTold text kind size) : ∃ others, size = others + 1 :=
  Nat.exists_eq_add_one.mpr told.positive

/-- A key takes its colon along, but no more than there is. -/
theorem isTold_stringAt (c : Char) (afterQuote : List Char) :
    IsTold (c :: afterQuote) (stringAt afterQuote).1 (stringAt afterQuote).2 := by
  have closes := quotedLength_le afterQuote
  unfold stringAt
  dsimp only
  split
  case isTrue colon =>
    obtain ⟨more, isColon⟩ := List.head?_eq_some_iff.mp colon
    have filled := congrArg List.length isColon
    rw [List.length_drop, List.length_drop, List.length_cons] at filled
    refine ⟨nofun, Nat.succ_pos _, ?_⟩
    rw [List.length_cons]
    dsimp only
    omega
  case isFalse => exact ⟨nofun, Nat.succ_pos _, Nat.succ_le_succ closes⟩

private theorem isTold_wordAt? {previous : Option Char} {text : List Char} {kind : Kind}
    {size : Nat} (isWord : wordAt? previous text = some (kind, size)) : IsTold text kind size := by
  obtain ⟨⟨word, wordKind⟩, isListed, found⟩ := List.exists_of_findSome?_eq_some isWord
  have listed : ∀ entry ∈ words, entry.2 ≠ .plain ∧ 0 < entry.1.length := by decide
  dsimp only at found
  split at found
  case isTrue starts =>
    obtain ⟨rfl, rfl⟩ := Prod.mk.inj (Option.some.inj found)
    simp only [Bool.and_eq_true, List.isPrefixOf_iff_prefix] at starts
    exact ⟨(listed _ isListed).1, (listed _ isListed).2, starts.1.1.length_le⟩
  case isFalse => contradiction

theorem isTold_tokenAt? {previous : Option Char} {text : List Char} {kind : Kind} {size : Nat}
    (isToken : tokenAt? previous text = some (kind, size)) : IsTold text kind size := by
  unfold tokenAt? at isToken
  split at isToken
  case h_1 => contradiction
  case h_2 c rest =>
    split at isToken
    case isTrue =>
      have told := isTold_stringAt c rest
      rwa [Option.some.inj isToken] at told
    case isFalse =>
      split at isToken
      case isTrue =>
        obtain ⟨rfl, rfl⟩ := Prod.mk.inj (Option.some.inj isToken)
        exact ⟨nofun, Nat.succ_pos _, Nat.succ_le_succ (List.takeWhile_prefix _).length_le⟩
      case isFalse => exact isTold_wordAt? isToken

/-! ### Texts -/

theorem lineText_flush (plain : List Char) : lineText (flush plain) = plain.reverse := by
  cases plain <;> simp [flush]

/-- Whatever has been collected comes first, and the characters of a token
already given are left out. -/
theorem lineText_tokensFrom (previous : Option Char) (skip : Nat) (plain text : List Char) :
    lineText (tokensFrom previous skip plain text) = plain.reverse ++ text.drop skip := by
  induction text generalizing previous skip plain with
  | nil => simp [tokensFrom, lineText_flush]
  | cons c rest inductionHypothesis =>
      cases skip with
      | succ left => simp [tokensFrom, inductionHypothesis]
      | zero =>
          rw [tokensFrom]
          split
          case h_1 kind size isToken =>
            obtain ⟨others, rfl⟩ := (isTold_tokenAt? isToken).exists_size
            simp [lineText_flush, inductionHypothesis]
          case h_2 => simp [inductionHypothesis]

theorem lineText_tokenizeLine (line : List Char) : lineText (tokenizeLine line) = line :=
  lineText_tokensFrom none 0 [] line

/-- The token lines of a value are its pretty text, cut at the line breaks. -/
theorem map_lineText_lines (value : Json.Value) :
    (lines value).map lineText = value.pretty.toList.splitOn '\n' := by
  rw [Json.Value.splitOn_pretty, lines, List.map_map]
  exact (List.map_congr_left fun line _ => lineText_tokenizeLine line).trans (List.map_id _)

end EventConsole.Highlight
