import EventConsole.Proofs.Highlight.Pieces

/-!
Contract: the tokens of a value, read line by line, are the value from left to
right.

Every line is a piece of its own, and stays one when a name is put in front of it
or a comma behind it. So the lines of a container give the tokens of its parts in
their order.

Owns: the traversal of a value, the tokens of its lines, and the classes of all of
them.

Does not own: that the tokens of a line join to the line.
-/

namespace EventConsole.Highlight

open Json (quote)

/-! ### The traversal -/

mutual

/-- Names with their colons and scalars, depth first. -/
def traversal : Json.Value → TokenLine
  | .null => [⟨.null, Json.Value.scalarText .null⟩]
  | .boolean value => [⟨.boolean, Json.Value.scalarText (.boolean value)⟩]
  | .number value => [⟨.number, Json.Value.scalarText (.number value)⟩]
  | .string value => [⟨.string, Json.Value.scalarText (.string value)⟩]
  | .array items => itemTraversal items
  | .object members => memberTraversal members

def itemTraversal : List Json.Value → TokenLine
  | [] => []
  | item :: rest => traversal item ++ itemTraversal rest

def memberTraversal : Json.Members → TokenLine
  | [] => []
  | (key, value) :: rest =>
      ⟨.key, quote key ++ [':']⟩ :: (traversal value ++ memberTraversal rest)

end

/-! ### Lines -/

/-- Lines that give some marked tokens, each line for itself. -/
inductive LinesScan : List (List Char) → TokenLine → Prop
  | nil : LinesScan [] []
  | cons {line : List Char} {rest : List (List Char)} {marked after : TokenLine}
      (scans : Scans line marked) (linesScan : LinesScan rest after) :
      LinesScan (line :: rest) (marked ++ after)

section Lines

variable {lines more : List (List Char)} {marked after : TokenLine}

private theorem classes_of_linesScan (linesScan : LinesScan lines marked) :
    Classes (lines.map tokenizeLine).flatten marked := by
  induction linesScan with
  | nil => exact classes_nil
  | @cons line rest marked after scans _ inductionHypothesis =>
      have falls : Falls (line ++ []) (marked ++ []) :=
        scans [] [] (fun _ isFirst => nomatch isFirst) falls_nil
      rw [List.append_nil, List.append_nil] at falls
      rw [List.map_cons, List.flatten_cons]
      exact (falls none [] (.inl rfl) fun _ member => nomatch member).append inductionHypothesis

theorem LinesScan.append (first : LinesScan lines marked) (second : LinesScan more after) :
    LinesScan (lines ++ more) (marked ++ after) := by
  induction first with
  | nil => exact second
  | cons scans _ inductionHypothesis =>
      rw [List.append_assoc]
      exact .cons scans inductionHypothesis

theorem LinesScan.openFirst {head : List Char} {name : TokenLine} (names : Delimits head name)
    (linesScan : LinesScan lines marked) :
    LinesScan (Json.Value.openFirst head lines) (name ++ marked) := by
  cases linesScan with
  | nil => exact .cons names.scans .nil
  | cons scans rest =>
      rw [← List.append_assoc]
      exact .cons (names.append_scans scans) rest

theorem LinesScan.closeLast (linesScan : LinesScan lines marked) :
    LinesScan (Json.Value.closeLast lines) marked := by
  induction linesScan with
  | nil => exact .cons (delimits_layout (by decide)).scans .nil
  | cons scans rest inductionHypothesis =>
      cases rest with
      | nil => exact .cons scans.comma .nil
      | cons => exact .cons scans inductionHypothesis

/-- Lines between a line that opens a container and the line that closes it. -/
theorem LinesScan.enclosed {first last : List Char} (opens : IsLayout first)
    (linesScan : LinesScan lines marked) (closes : IsLayout last) :
    LinesScan (first :: lines ++ [last]) marked := by
  have opened : LinesScan (first :: lines) ([] ++ marked) :=
    .cons (delimits_layout opens).scans linesScan
  have closed : LinesScan [last] ([] ++ []) := .cons (delimits_layout closes).scans .nil
  have all := opened.append closed
  rwa [List.nil_append, List.append_nil, List.append_nil] at all

theorem linesScan_line {line : List Char} (scans : Scans line marked) :
    LinesScan [line] marked := by
  have all := LinesScan.cons scans .nil
  rwa [List.append_nil] at all

/-- The lines of a part, followed by the lines of the other parts. -/
theorem LinesScan.next {head : List Char} {name : TokenLine} (names : Delimits head name)
    (linesScan : LinesScan lines marked) (others : LinesScan more after) :
    LinesScan (Json.Value.closeLast (Json.Value.openFirst head lines) ++ more)
      (name ++ (marked ++ after)) := by
  rw [← List.append_assoc]
  exact (linesScan.openFirst names).closeLast.append others

end Lines

/-! ### Values -/

theorem layout_indent (depth : Nat) : IsLayout (Json.Value.indent depth) := by
  intro c member
  rw [List.eq_of_mem_replicate member]
  decide

private theorem layout_closing (depth : Nat) {c : Char} (isLayout : c ∈ layout) :
    IsLayout (Json.Value.indent depth ++ [c]) :=
  List.forall_mem_append.mpr ⟨layout_indent depth, List.forall_mem_singleton.mpr isLayout⟩

theorem delimits_indent (depth : Nat) : Delimits (Json.Value.indent depth) [] :=
  delimits_layout (layout_indent depth)

theorem delimits_memberHead (depth : Nat) (key : String) :
    Delimits (Json.Value.indent depth ++ quote key ++ [':', ' '])
      [⟨.key, quote key ++ [':']⟩] := by
  rw [List.append_assoc]
  exact (delimits_indent depth).append (delimits_name key)

mutual

theorem linesScan_linesAt (depth : Nat) :
    ∀ value, LinesScan (Json.Value.linesAt depth value) (traversal value)
  | .null => linesScan_line (scans_word (by decide))
  | .boolean true => linesScan_line (scans_word (by decide))
  | .boolean false => linesScan_line (scans_word (by decide))
  | .number value => linesScan_line (scans_number value)
  | .string text => linesScan_line (scans_quote text)
  | .array [] => linesScan_line (delimits_layout (by decide)).scans
  | .array (item :: rest) =>
      (linesScan_itemLines (depth + 1) (item :: rest)).enclosed (by decide)
        (layout_closing depth (by decide))
  | .object [] => linesScan_line (delimits_layout (by decide)).scans
  | .object (member :: rest) =>
      (linesScan_memberLines (depth + 1) (member :: rest)).enclosed (by decide)
        (layout_closing depth (by decide))

private theorem linesScan_itemLines (depth : Nat) :
    ∀ items, LinesScan (Json.Value.itemLines depth items) (itemTraversal items)
  | [] => .nil
  | [item] => by
      rw [itemTraversal, itemTraversal, List.append_nil]
      exact (linesScan_linesAt depth item).openFirst (delimits_indent depth)
  | item :: next :: rest => by
      show LinesScan _ ([] ++ (traversal item ++ itemTraversal (next :: rest)))
      exact (linesScan_linesAt depth item).next (delimits_indent depth)
        (linesScan_itemLines depth (next :: rest))

private theorem linesScan_memberLines (depth : Nat) :
    ∀ members, LinesScan (Json.Value.memberLines depth members) (memberTraversal members)
  | [] => .nil
  | [(key, value)] => by
      rw [memberTraversal, memberTraversal, List.append_nil]
      exact (linesScan_linesAt depth value).openFirst (delimits_memberHead depth key)
  | (key, value) :: next :: rest =>
      (linesScan_linesAt depth value).next (delimits_memberHead depth key)
        (linesScan_memberLines depth (next :: rest))

end

/-- The marked tokens of the lines of a value are its traversal, and all others are
layout. -/
theorem classes_lines (value : Json.Value) : Classes (lines value).flatten (traversal value) :=
  classes_of_linesScan (linesScan_linesAt 0 value)

-- Quotes, colons and words within a string belong to its token.
example :
    ((lines (.object [("a\":", .string "null, 1")])).flatten.filter fun token =>
      token.kind ≠ .plain) =
        [⟨.key, "\"a\\\":\":".toList⟩, ⟨.string, "\"null, 1\"".toList⟩] := by decide

end EventConsole.Highlight
