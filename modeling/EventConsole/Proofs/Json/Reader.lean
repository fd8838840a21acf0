import EventConsole.Json.Reader
import EventConsole.Proofs.Json.Tokens

/-!
Contract: the tokens of a value are read as that value, and so is its pretty
text.

Stated for the reader of records, which keeps every member and has no limit of
depth: it gives back any value whose numbers are all integers.

Owns: what the machine makes of the tokens of a value inside any containers.
-/

namespace EventConsole.Json

open Value

/-! ### Steps -/

theorem Reading.run_cons {rule : ReadingRule} {reading next : Reading} {token : Token}
    (stepped : reading.step rule token = some next) (rest : List Token) :
    reading.run rule (token :: rest) = next.run rule rest := by
  rw [Reading.run, stepped]

/-- Where a value may start, a scalar is taken for a value. -/
theorem step_scalar {rule : ReadingRule} {stack : List Frame} (takes : takesValue stack = true)
    {token : Token} {value : Value} (scalar : scalar? rule token = some value) :
    (Reading.within stack).step rule token = accept rule value stack := by
  cases token with
  | null | boolean | number | string =>
      cases stack with
      | nil => simp [Reading.step, scalar]
      | cons frame outer =>
          cases frame with
          | arrayItem | arrayMore | objectValue => simp [Reading.step, scalar]
          | arrayNext | objectName | objectColon | objectNext | objectMore => contradiction
  | openArray | closeArray | openObject | closeObject | colon | comma => contradiction

/-- Gives a completed value to the innermost container and goes on. -/
def resume (rule : ReadingRule) (value : Value) (stack : List Frame) (rest : List Token) :
    Option Reading :=
  (accept rule value stack).bind fun next => next.run rule rest

theorem run_completing {rule : ReadingRule} {reading : Reading} {token : Token} {value : Value}
    {stack : List Frame} (completes : reading.step rule token = accept rule value stack)
    (rest : List Token) : reading.run rule (token :: rest) = resume rule value stack rest := by
  rw [Reading.run, completes, resume]
  cases accept rule value stack <;> rfl

theorem run_scalar {rule : ReadingRule} {stack : List Frame} (takes : takesValue stack = true)
    {token : Token} {value : Value} (scalar : scalar? rule token = some value)
    (rest : List Token) :
    (Reading.within stack).run rule (token :: rest) = resume rule value stack rest :=
  run_completing (step_scalar takes scalar) rest

/-! ### Containers -/

section Containers

variable {stack outer : List Frame} {frame : Frame} {rest : List Token}

private theorem run_openArray (takes : takesValue stack = true) :
    (Reading.within stack).run .record (.openArray :: rest) =
      (Reading.within (.arrayItem [] :: stack)).run .record rest := by
  apply Reading.run_cons
  simp [Reading.step, openFrame, takes, ReadingRule.allowsDepth, ReadingRule.record]

private theorem run_openObject (takes : takesValue stack = true) :
    (Reading.within stack).run .record (.openObject :: rest) =
      (Reading.within (.objectName (some []) :: stack)).run .record rest := by
  apply Reading.run_cons
  simp [Reading.step, openFrame, takes, ReadingRule.allowsDepth, ReadingRule.record]

/-- Whether a frame takes one more item of an array after those seen, last first. -/
def TakesItem (seen : List Value) (frame : Frame) : Prop :=
  frame = .arrayItem seen ∨ frame = .arrayMore seen

theorem TakesItem.takesValue {seen : List Value} (takes : TakesItem seen frame) :
    takesValue (frame :: outer) = true := by
  rcases takes with rfl | rfl <;> rfl

theorem TakesItem.resume {seen : List Value} (takes : TakesItem seen frame) (value : Value) :
    resume .record value (frame :: outer) rest =
      (Reading.within (.arrayNext (value :: seen) :: outer)).run .record rest := by
  rcases takes with rfl | rfl <;> rfl

private theorem run_closeArray (seen : List Value) :
    (Reading.within (.arrayNext seen :: outer)).run .record (.closeArray :: rest) =
      resume .record (.array seen.reverse) outer rest :=
  run_completing rfl rest

/-- Whether a frame takes one more name of an object after the members seen. -/
def TakesName (seen : Members) (frame : Frame) : Prop :=
  frame = .objectName (some seen) ∨ frame = .objectMore (some seen)

theorem TakesName.run {seen : Members} (takes : TakesName seen frame) (key : String) :
    (Reading.within (frame :: outer)).run .record (.string (some key) :: .colon :: rest) =
      (Reading.within (.objectValue (some seen) key :: outer)).run .record rest := by
  rcases takes with rfl | rfl <;> rfl

private theorem resume_member (seen : Members) (key : String) (value : Value) :
    resume .record value (.objectValue (some seen) key :: outer) rest =
      (Reading.within (.objectNext (some (seen ++ [(key, value)])) :: outer)).run .record rest :=
  rfl

private theorem run_closeObject (seen : Members) :
    (Reading.within (.objectNext (some seen) :: outer)).run .record (.closeObject :: rest) =
      resume .record (.object seen) outer rest :=
  run_completing rfl rest

end Containers

/-! ### Values -/

mutual

/-- The tokens of a value are read as that value wherever a value may start. -/
theorem run_tokens :
    ∀ (value : Value) {stack : List Frame} (_takes : takesValue stack = true) (rest : List Token),
      (Reading.within stack).run .record (value.tokens ++ rest) = resume .record value stack rest
  | .null, _, takes, rest => run_scalar takes rfl rest
  | .boolean _, _, takes, rest => run_scalar takes rfl rest
  | .number _, _, takes, rest => run_scalar takes rfl rest
  | .string _, _, takes, rest => run_scalar takes rfl rest
  | .array [], _, takes, rest => (run_openArray takes).trans (run_completing rfl rest)
  | .array (item :: more), stack, takes, rest => by
      have opened : (Value.array (item :: more)).tokens ++ rest =
          .openArray :: (itemTokens (item :: more) ++ .closeArray :: rest) := by
        simp [Value.tokens]
      rw [opened, run_openArray takes]
      exact run_itemTokens (item :: more) (List.cons_ne_nil _ _) (.inl rfl) rest
  | .object [], _, takes, rest => (run_openObject takes).trans (run_completing rfl rest)
  | .object (member :: more), stack, takes, rest => by
      have opened : (Value.object (member :: more)).tokens ++ rest =
          .openObject :: (memberTokens (member :: more) ++ .closeObject :: rest) := by
        simp [Value.tokens]
      rw [opened, run_openObject takes]
      exact run_memberTokens (member :: more) (List.cons_ne_nil _ _) (.inl rfl) rest

private theorem run_itemTokens :
    ∀ (items : List Value) (_filled : items ≠ []) {frame : Frame} {seen : List Value}
      (_takes : TakesItem seen frame) {outer : List Frame} (rest : List Token),
      (Reading.within (frame :: outer)).run .record (itemTokens items ++ .closeArray :: rest) =
        resume .record (.array (seen.reverse ++ items)) outer rest
  | [], filled, _, _, _, _, _ => absurd rfl filled
  | [item], _, frame, seen, takes, outer, rest => by
      rw [itemTokens, run_tokens item takes.takesValue, takes.resume, run_closeArray,
        List.reverse_cons]
  | item :: next :: more, _, frame, seen, takes, outer, rest => by
      have listed : itemTokens (item :: next :: more) ++ .closeArray :: rest =
          item.tokens ++ .comma :: (itemTokens (next :: more) ++ .closeArray :: rest) := by
        simp [itemTokens]
      rw [listed, run_tokens item takes.takesValue, takes.resume, Reading.run_cons rfl,
        run_itemTokens (next :: more) (List.cons_ne_nil _ _) (.inr rfl), List.reverse_cons,
        List.append_assoc, List.singleton_append]

private theorem run_memberTokens :
    ∀ (members : Members) (_filled : members ≠ []) {frame : Frame} {seen : Members}
      (_takes : TakesName seen frame) {outer : List Frame} (rest : List Token),
      (Reading.within (frame :: outer)).run .record (memberTokens members ++ .closeObject :: rest) =
        resume .record (.object (seen ++ members)) outer rest
  | [], filled, _, _, _, _, _ => absurd rfl filled
  | [(key, value)], _, frame, seen, takes, outer, rest => by
      rw [memberTokens, List.cons_append, List.cons_append, takes.run, run_tokens value rfl,
        resume_member, run_closeObject]
  | (key, value) :: next :: more, _, frame, seen, takes, outer, rest => by
      have listed : memberTokens ((key, value) :: next :: more) ++ .closeObject :: rest =
          .string (some key) :: .colon ::
            (value.tokens ++ .comma :: (memberTokens (next :: more) ++ .closeObject :: rest)) := by
        simp [memberTokens]
      rw [listed, takes.run, run_tokens value rfl, resume_member, Reading.run_cons rfl,
        run_memberTokens (next :: more) (List.cons_ne_nil _ _) (.inr rfl), List.append_assoc,
        List.singleton_append]

end

/-- A record reads back from its pretty text. -/
theorem readRecord?_pretty {value : Value} (exact : value.Exact) :
    readRecord? value.pretty = some value := by
  have isRead : (Reading.within []).run .record value.tokens = some (.finished value) := by
    have whole : (Reading.within []).run .record (value.tokens ++ []) =
        resume .record value [] [] :=
      run_tokens value rfl []
    rw [List.append_nil] at whole
    exact whole
  rw [readRecord?, readBy?, tokens?_pretty exact, Option.bind_some, isRead]

end EventConsole.Json
