import EventConsole.Proofs.Json.Token

/-!
Contract: the pretty text of a value falls into the tokens of that value.

Spaces and line breaks are skipped, so the layout leaves no trace. Only a number
needs to know what follows it, and it is always followed by a comma, by a line
break or by nothing.

Owns: the tokens of a value, scanning a piece of text within a longer one, and
the pretty text of values whose numbers are all integers.
-/

namespace EventConsole.Json

namespace Value

mutual

/-- No number inside a value is a floating-point number. -/
def Exact : Value → Prop
  | .number value => value.Whole
  | .array items => ItemsExact items
  | .object members => MembersExact members
  | .null | .boolean _ | .string _ => True

def ItemsExact : List Value → Prop
  | [] => True
  | item :: rest => Exact item ∧ ItemsExact rest

def MembersExact : Members → Prop
  | [] => True
  | (_, value) :: rest => Exact value ∧ MembersExact rest

end

mutual

/-- The tokens of the text of a value. -/
def tokens : Value → List Token
  | .null => [.null]
  | .boolean value => [.boolean value]
  | .number value => [.number (some value)]
  | .string value => [.string (some value)]
  | .array items => .openArray :: (itemTokens items ++ [.closeArray])
  | .object members => .openObject :: (memberTokens members ++ [.closeObject])

def itemTokens : List Value → List Token
  | [] => []
  | [item] => tokens item
  | item :: rest => tokens item ++ .comma :: itemTokens rest

def memberTokens : Members → List Token
  | [] => []
  | [(key, value)] => .string (some key) :: .colon :: tokens value
  | (key, value) :: rest =>
      .string (some key) :: .colon :: (tokens value ++ .comma :: memberTokens rest)

end

end Value

/-! ### Scanning -/

/-- Whether a text falls into some tokens. As many rounds as there are characters
are enough, and more do no harm. -/
def Falls (text : List Char) (tokens : List Token) : Prop :=
  ∀ rounds, text.length ≤ rounds → tokensWithin rounds text = some tokens

theorem falls_nil : Falls [] [] := by
  intro rounds _
  cases rounds <;> rfl

theorem falls_of_token {text rest : List Char} {token : Token} {tokens : List Token}
    (isToken : token? text = some (some token, rest)) (shorter : rest.length < text.length)
    (falls : Falls rest tokens) : Falls text (token :: tokens) := by
  intro rounds enough
  obtain ⟨fewer, rfl⟩ : ∃ fewer, rounds = fewer + 1 := ⟨rounds - 1, by omega⟩
  have later : tokensWithin fewer rest = some tokens := falls fewer (by omega)
  cases text with
  | nil => contradiction
  | cons c others => simp only [tokensWithin, isToken, later, Option.map_some]

private theorem falls_of_gap {c : Char} {rest : List Char} {tokens : List Token}
    (isGap : token? (c :: rest) = some (none, rest)) (falls : Falls rest tokens) :
    Falls (c :: rest) tokens := by
  intro rounds enough
  obtain ⟨fewer, rfl⟩ : ∃ fewer, rounds = fewer + 1 :=
    ⟨rounds - 1, by rw [List.length_cons] at enough; omega⟩
  rw [List.length_cons] at enough
  simp only [tokensWithin, isGap]
  exact falls fewer (by omega)

/-- Whether a piece of text gives its tokens whatever follows it. -/
def Delimits (text : List Char) (tokens : List Token) : Prop :=
  ∀ rest after, Falls rest after → Falls (text ++ rest) (tokens ++ after)

/-- Whether a piece of text gives its tokens where a number may end behind it. -/
def Scans (text : List Char) (tokens : List Token) : Prop :=
  ∀ rest after, EndsNumber rest → Falls rest after → Falls (text ++ rest) (tokens ++ after)

theorem Delimits.scans {text : List Char} {tokens : List Token} (delimits : Delimits text tokens) :
    Scans text tokens :=
  fun rest after _ falls => delimits rest after falls

theorem Delimits.append {first second : List Char} {before after : List Token}
    (head : Delimits first before) (tail : Delimits second after) :
    Delimits (first ++ second) (before ++ after) := by
  intro rest later falls
  rw [List.append_assoc, List.append_assoc]
  exact head _ _ (tail rest later falls)

theorem Delimits.append_scans {first second : List Char} {before after : List Token}
    (head : Delimits first before) (tail : Scans second after) :
    Scans (first ++ second) (before ++ after) := by
  intro rest later ends falls
  rw [List.append_assoc, List.append_assoc]
  exact head _ _ (tail rest later ends falls)

/-- A piece that ends a number may stand behind any piece. -/
theorem Scans.append_delimits {first second : List Char} {c : Char} {before after : List Token}
    (head : Scans first before) (ends : EndsNumber [c]) (tail : Delimits (c :: second) after) :
    Delimits (first ++ c :: second) (before ++ after) := by
  intro rest later falls
  rw [List.append_assoc, List.append_assoc]
  exact head _ _ ends (tail rest later falls)

theorem delimits_token {text : List Char} {token : Token} (filled : text ≠ [])
    (isToken : ∀ rest, token? (text ++ rest) = some (some token, rest)) :
    Delimits text [token] := by
  intro rest after falls
  have shorter : rest.length < (text ++ rest).length := by
    have positive := List.length_pos_iff.mpr filled
    rw [List.length_append]
    omega
  exact falls_of_token (isToken rest) shorter falls

theorem delimits_gap {c : Char} (gap : ∀ rest, token? (c :: rest) = some (none, rest)) :
    Delimits [c] [] :=
  fun rest _ falls => falls_of_gap (gap rest) falls

theorem delimits_line : Delimits ['\n'] [] := delimits_gap fun _ => rfl

private theorem delimits_spaces (count : Nat) : Delimits (List.replicate count ' ') [] := by
  induction count with
  | zero => exact fun _ _ falls => falls
  | succ count inductionHypothesis =>
      exact Delimits.append (delimits_gap fun _ => rfl) inductionHypothesis

theorem delimits_mark {c : Char} {token : Token}
    (isToken : ∀ rest, token? (c :: rest) = some (some token, rest)) : Delimits [c] [token] :=
  delimits_token (List.cons_ne_nil c []) isToken

private theorem delimits_quote (text : String) : Delimits (quote text) [.string (some text)] :=
  delimits_token (List.cons_ne_nil _ _) (token?_quote text)

theorem scans_number {number : Number} (whole : number.Whole) :
    Scans number.text [.number (some number)] := by
  intro rest after ends falls
  have isToken := token?_number whole ends
  have filled : number.text ≠ [] := by
    intro empty
    cases number with
    | natural value => exact Nat.toDigits_ne_nil empty
    | negative below => exact List.cons_ne_nil _ _ empty
    | real value => exact whole
  have shorter : rest.length < (number.text ++ rest).length := by
    have positive := List.length_pos_iff.mpr filled
    rw [List.length_append]
    omega
  exact falls_of_token isToken shorter falls

namespace Value

/-! ### Lines -/

theorem delimits_indent (depth : Nat) : Delimits (indent depth) [] := delimits_spaces (2 * depth)

theorem delimits_name (key : String) :
    Delimits (quote key ++ [':', ' ']) [.string (some key), .colon] :=
  (delimits_quote key).append ((delimits_mark fun _ => rfl).append (delimits_gap fun _ => rfl))

theorem openFirst_ne_nil (head : List Char) (lines : List (List Char)) :
    openFirst head lines ≠ [] := by
  cases lines <;> simp [openFirst]

theorem closeLast_ne_nil (lines : List (List Char)) : closeLast lines ≠ [] := by
  unfold closeLast
  split <;> simp

theorem joinLines_cons (line : List Char) {rest : List (List Char)} (filled : rest ≠ []) :
    joinLines (line :: rest) = line ++ '\n' :: joinLines rest := by
  cases rest with
  | nil => contradiction
  | cons next rest => rfl

private theorem joinLines_openFirst (head : List Char) (lines : List (List Char)) :
    joinLines (openFirst head lines) = head ++ joinLines lines := by
  cases lines with
  | nil => simp [openFirst, joinLines]
  | cons line rest =>
      cases rest with
      | nil => rfl
      | cons next rest => simp [openFirst, joinLines]

private theorem joinLines_closeLast (lines : List (List Char)) :
    joinLines (closeLast lines) = joinLines lines ++ [','] := by
  fun_induction closeLast lines with
  | case1 => rfl
  | case2 line => rfl
  | case3 line rest notLast inductionHypothesis =>
      rw [joinLines_cons _ (closeLast_ne_nil rest), joinLines_cons _ notLast, inductionHypothesis,
        List.append_assoc, List.cons_append]

private theorem joinLines_append {lines more : List (List Char)} (filled : lines ≠ [])
    (moreFilled : more ≠ []) :
    joinLines (lines ++ more) = joinLines lines ++ '\n' :: joinLines more := by
  fun_induction joinLines lines with
  | case1 => contradiction
  | case2 line => exact joinLines_cons line moreFilled
  | case3 line rest notLast inductionHypothesis =>
      have rejoined : rest ++ more ≠ [] := List.append_ne_nil_of_left_ne_nil notLast more
      rw [List.cons_append, joinLines_cons _ rejoined, inductionHypothesis notLast,
        List.append_assoc, List.cons_append]

theorem itemLines_ne_nil (depth : Nat) (item : Value) (rest : List Value) :
    itemLines depth (item :: rest) ≠ [] := by
  cases rest with
  | nil => exact openFirst_ne_nil _ _
  | cons next rest => exact List.append_ne_nil_of_left_ne_nil (closeLast_ne_nil _) _

theorem memberLines_ne_nil (depth : Nat) (member : String × Value) (rest : Members) :
    memberLines depth (member :: rest) ≠ [] := by
  cases rest with
  | nil => exact openFirst_ne_nil _ _
  | cons next rest => exact List.append_ne_nil_of_left_ne_nil (closeLast_ne_nil _) _

/-- Lines between the two marks of a container. -/
theorem scans_enclosed {first last : Char} {opens closes : Token} (depth : Nat)
    {lines : List (List Char)} {tokens : List Token} (filled : lines ≠ [])
    (isOpen : ∀ rest, token? (first :: rest) = some (some opens, rest))
    (isClose : ∀ rest, token? (last :: rest) = some (some closes, rest))
    (scans : Scans (joinLines lines) tokens) :
    Scans (joinLines ([first] :: lines ++ [indent depth ++ [last]]))
      (opens :: (tokens ++ [closes])) := by
  have text : joinLines ([first] :: lines ++ [indent depth ++ [last]]) =
      [first] ++ (['\n'] ++ (joinLines lines ++ '\n' :: (indent depth ++ [last]))) := by
    rw [joinLines_append (List.cons_ne_nil _ _) (List.cons_ne_nil _ _),
      joinLines_cons _ filled]
    simp [joinLines]
  have ending : Delimits ('\n' :: (indent depth ++ [last])) [closes] :=
    delimits_line.append ((delimits_indent depth).append (delimits_mark isClose))
  rw [text]
  exact ((delimits_mark isOpen).append (delimits_line.append
    (scans.append_delimits (by decide) ending))).scans

/-- Lines of a part with its head in front, followed by the lines of the other parts. -/
theorem scans_next {head : List Char} {lines more : List (List Char)}
    {name tokens after : List Token} (moreFilled : more ≠ [])
    (names : Delimits head name) (scans : Scans (joinLines lines) tokens)
    (scansMore : Scans (joinLines more) after) :
    Scans (joinLines (closeLast (openFirst head lines) ++ more))
      (name ++ (tokens ++ .comma :: after)) := by
  have comma : Delimits (',' :: ['\n']) [.comma] :=
    (delimits_mark fun _ => rfl).append delimits_line
  have text : joinLines (closeLast (openFirst head lines) ++ more) =
      head ++ ((joinLines lines ++ ',' :: ['\n']) ++ joinLines more) := by
    rw [joinLines_append (closeLast_ne_nil _) moreFilled, joinLines_closeLast,
      joinLines_openFirst]
    simp
  have part : Delimits (joinLines lines ++ ',' :: ['\n']) (tokens ++ [.comma]) :=
    scans.append_delimits (by decide) comma
  have whole := names.append_scans (part.append_scans scansMore)
  rw [text]
  simpa using whole

private theorem scans_openFirst {head : List Char} {lines : List (List Char)}
    {name tokens : List Token}
    (names : Delimits head name) (scans : Scans (joinLines lines) tokens) :
    Scans (joinLines (openFirst head lines)) (name ++ tokens) := by
  rw [joinLines_openFirst]
  exact names.append_scans scans

/-! ### Values -/

theorem delimits_memberHead (depth : Nat) (key : String) :
    Delimits (indent depth ++ quote key ++ [':', ' ']) [.string (some key), .colon] := by
  rw [List.append_assoc]
  exact (delimits_indent depth).append (delimits_name key)

private theorem scans_boolean (value : Bool) :
    Scans (scalarText (.boolean value)) [.boolean value] := by
  cases value with
  | false => exact (delimits_token (List.cons_ne_nil _ _) fun _ => rfl).scans
  | true => exact (delimits_token (List.cons_ne_nil _ _) fun _ => rfl).scans

mutual

theorem scans_linesAt (depth : Nat) :
    ∀ value, Exact value → Scans (joinLines (linesAt depth value)) value.tokens
  | .null, _ => (delimits_token (List.cons_ne_nil _ _) fun _ => rfl).scans
  | .boolean value, _ => scans_boolean value
  | .number _, exact => scans_number exact
  | .string text, _ => (delimits_quote text).scans
  | .array [], _ => ((delimits_mark fun _ => rfl).append (delimits_mark fun _ => rfl)).scans
  | .array (item :: rest), exact =>
      scans_enclosed depth (itemLines_ne_nil _ item rest) (fun _ => rfl) (fun _ => rfl)
        (scans_itemLines (depth + 1) (item :: rest) exact)
  | .object [], _ => ((delimits_mark fun _ => rfl).append (delimits_mark fun _ => rfl)).scans
  | .object (member :: rest), exact =>
      scans_enclosed depth (memberLines_ne_nil _ member rest) (fun _ => rfl) (fun _ => rfl)
        (scans_memberLines (depth + 1) (member :: rest) exact)

private theorem scans_itemLines (depth : Nat) :
    ∀ items, ItemsExact items → Scans (joinLines (itemLines depth items)) (itemTokens items)
  | [], _ => fun _ _ _ falls => falls
  | [item], exact => scans_openFirst (delimits_indent depth) (scans_linesAt depth item exact.1)
  | item :: next :: rest, exact =>
      scans_next (itemLines_ne_nil _ next rest) (delimits_indent depth)
        (scans_linesAt depth item exact.1) (scans_itemLines depth (next :: rest) exact.2)

private theorem scans_memberLines (depth : Nat) :
    ∀ members, MembersExact members →
      Scans (joinLines (memberLines depth members)) (memberTokens members)
  | [], _ => fun _ _ _ falls => falls
  | [(key, value)], exact =>
      scans_openFirst (delimits_memberHead depth key) (scans_linesAt depth value exact.1)
  | (key, value) :: next :: rest, exact =>
      scans_next (memberLines_ne_nil _ next rest) (delimits_memberHead depth key)
        (scans_linesAt depth value exact.1) (scans_memberLines depth (next :: rest) exact.2)

end

theorem tokens?_pretty {value : Value} (exact : value.Exact) :
    tokens? value.pretty.toList = some value.tokens := by
  have falls : Falls (joinLines value.prettyLines ++ []) (value.tokens ++ []) :=
    scans_linesAt 0 value exact [] [] trivial falls_nil
  rw [List.append_nil, List.append_nil] at falls
  rw [pretty, String.toList_ofList]
  exact falls _ (Nat.le_refl _)

end Value

end EventConsole.Json
