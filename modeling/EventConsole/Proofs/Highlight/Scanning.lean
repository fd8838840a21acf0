import EventConsole.Proofs.Highlight
import EventConsole.Proofs.Highlight.Pieces
import Mathlib.Data.List.Chain

/-!
Contract: cutting a line comes to its end, whatever the line is.

The line is read in turns. A turn takes a whole token or one plain character, at
least one character in any case and none behind the end of the line. So there are
at most as many turns as characters, and the tokens given in them are those of the
line.

Owns: the turns, and that every token has a text and none is plain next to another
plain one.

Does not own: what the tokens are that start with a character.
-/

namespace EventConsole.Highlight

/-! ### Turns -/

/-- How far a line is read. -/
structure Place where
  /-- The tokens given, first to last. -/
  given : TokenLine
  /-- The plain characters since the last token, last first. -/
  plain : List Char
  previous : Option Char
  rest : List Char

namespace Place

def start (line : List Char) : Place := ⟨[], [], none, line⟩

/-- The place after a turn. There is none at the end of a line, and none after a
token that would end behind it. -/
def next? (place : Place) : Option Place :=
  match place.rest with
  | [] => none
  | c :: rest =>
      match tokenAt? place.previous (c :: rest) with
      | some (kind, size) =>
          if size ≤ (c :: rest).length then
            let taken := (c :: rest).take size
            some ⟨place.given ++ flush place.plain ++ [⟨kind, taken⟩], [], taken.getLast?,
              (c :: rest).drop size⟩
          else none
      | none => some ⟨place.given, c :: place.plain, some c, rest⟩

/-- The tokens of a line that is read to its end in so many turns, if these are
enough. -/
def finish? (turns : Nat) (place : Place) : Option TokenLine :=
  match place.rest, turns with
  | [], _ => some (place.given ++ flush place.plain)
  | _ :: _, 0 => none
  | _ :: _, turns + 1 => place.next?.bind (finish? turns)

/-- The tokens of a line, from a place in it. -/
def tokens (place : Place) : TokenLine :=
  place.given ++ tokensFrom place.previous 0 place.plain place.rest

/-- A turn goes on within the line, and leaves its tokens what they are. -/
structure GoesOn (place next : Place) : Prop where
  isNext : place.next? = some next
  shorter : next.rest.length < place.rest.length
  same : next.tokens = place.tokens

/-- There is a turn everywhere before the end. -/
theorem exists_goesOn {place : Place} (inside : place.rest ≠ []) :
    ∃ next, place.GoesOn next := by
  obtain ⟨given, plain, previous, text⟩ := place
  obtain ⟨c, rest, rfl⟩ := List.exists_cons_of_ne_nil inside
  cases starts : tokenAt? previous (c :: rest) with
  | none =>
      refine ⟨⟨given, c :: plain, some c, rest⟩, ?_, Nat.lt_succ_self _, ?_⟩
      · simp only [next?, starts]
      · simp only [tokens, tokensFrom, starts]
  | some token =>
      obtain ⟨kind, size⟩ := token
      have told := isTold_tokenAt? starts
      obtain ⟨others, rfl⟩ := told.exists_size
      have within : others ≤ rest.length := Nat.le_of_succ_le_succ told.within
      -- The other characters of the token are passed over, up to the last of them.
      have passed := tokensFrom_taken (some c) [] (rest.take others) (rest.drop others)
      rw [List.take_append_drop, List.length_take, Nat.min_eq_left within] at passed
      refine ⟨⟨given ++ flush plain ++ [⟨kind, c :: rest.take others⟩], [],
        (c :: rest.take others).getLast?, rest.drop others⟩, ?_, ?_, ?_⟩
      · simp only [next?, starts, if_pos told.within]
        rfl
      · rw [List.length_drop, List.length_cons]
        omega
      · have last : (c :: rest.take others).getLast? = (rest.take others).getLast?.or (some c) := by
          rw [List.getLast?_cons]
          cases (rest.take others).getLast? <;> rfl
        simp only [tokens, tokensFrom, starts, last, Nat.add_sub_cancel, List.take_succ_cons,
          passed, List.append_assoc, List.singleton_append]

/-- As many turns are enough as there are characters left. -/
theorem finish?_of_enough {turns : Nat} {place : Place} (enough : place.rest.length ≤ turns) :
    place.finish? turns = some place.tokens := by
  induction turns generalizing place with
  | zero =>
      have ended : place.rest = [] := List.length_eq_zero_iff.mp (Nat.le_zero.mp enough)
      unfold finish? tokens
      rw [ended]
      rfl
  | succ turns inductionHypothesis =>
      by_cases ended : place.rest = []
      · unfold finish? tokens
        rw [ended]
        rfl
      · obtain ⟨next, goesOn⟩ := exists_goesOn ended
        obtain ⟨c, rest, isRest⟩ := List.exists_cons_of_ne_nil ended
        unfold finish?
        rw [isRest, goesOn.isNext, ← goesOn.same]
        exact inductionHypothesis (by have shorter := goesOn.shorter; omega)

end Place

/-! ### Tokens next to each other -/

/-- No token is empty, and plain characters next to each other are one token. -/
structure IsTight (tokens : TokenLine) : Prop where
  filled : ∀ token ∈ tokens, token.text ≠ []
  merged : tokens.IsChain fun token next => ¬ (token.kind = .plain ∧ next.kind = .plain)

theorem isTight_flush (plain : List Char) : IsTight (flush plain) := by
  cases plain with
  | nil => exact ⟨nofun, List.isChain_nil⟩
  | cons c plain =>
      refine ⟨List.forall_mem_singleton.mpr ?_, List.isChain_singleton _⟩
      rw [Ne, List.reverse_eq_nil_iff]
      exact List.cons_ne_nil c plain

/-- A token that is not plain parts what is collected before it from what follows. -/
theorem IsTight.after_flush {more : TokenLine} (tight : IsTight more) (plain : List Char)
    {token : Token} (marks : token.kind ≠ .plain) (filled : token.text ≠ []) :
    IsTight (flush plain ++ token :: more) where
  filled :=
    List.forall_mem_append.mpr
      ⟨(isTight_flush plain).filled, List.forall_mem_cons.mpr ⟨filled, tight.filled⟩⟩
  merged := by
    rw [List.isChain_append, List.isChain_cons]
    refine ⟨(isTight_flush plain).merged, ⟨fun next _ both => marks both.1, tight.merged⟩, ?_⟩
    intro last _ first isFirst both
    obtain rfl := Option.some.inj isFirst
    exact marks both.2

private theorem isTight_tokensFrom (previous : Option Char) (skip : Nat) (plain text : List Char) :
    IsTight (tokensFrom previous skip plain text) := by
  induction text generalizing previous skip plain with
  | nil => exact isTight_flush plain
  | cons c rest inductionHypothesis =>
      cases skip with
      | succ left => exact inductionHypothesis _ _ _
      | zero =>
          rw [tokensFrom]
          split
          case h_1 kind size isToken =>
            have told := isTold_tokenAt? isToken
            obtain ⟨others, rfl⟩ := told.exists_size
            exact (inductionHypothesis _ _ _).after_flush plain told.marks (List.cons_ne_nil _ _)
          case h_2 => exact inductionHypothesis _ _ _

/-! ### Lines -/

/-- A line is cut into tokens without loss: a turn for each character is enough, and
the tokens join to the line. -/
structure CutsWhole (line : List Char) (tokens : TokenLine) : Prop where
  ends : (Place.start line).finish? line.length = some tokens
  joins : lineText tokens = line
  tight : IsTight tokens

/-- Whatever the characters of the line are. -/
theorem cutsWhole_tokenizeLine (line : List Char) : CutsWhole line (tokenizeLine line) where
  ends := Place.finish?_of_enough (Nat.le_refl _)
  joins := lineText_tokenizeLine line
  tight := isTight_tokensFrom none 0 [] line

-- A string that is not closed ends with its line, also behind a backslash.
example : tokenizeLine ['1', '"', 'a', '\\'] = [⟨.number, ['1']⟩, ⟨.string, ['"', 'a', '\\']⟩] := by
  decide

end EventConsole.Highlight
