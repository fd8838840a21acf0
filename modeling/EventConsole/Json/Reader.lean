import EventConsole.Json.Token

/-!
Contract: JSON text to value.

Reading is a pushdown machine over tokens: the open containers form a stack, and
each token either completes a value, which goes into the innermost container, or
moves that container on.

Owns: two ways of reading.
- A whole value is read with at most 127 containers inside each other. A name that
  occurs again in an object replaces the value and keeps the first place.
- A record is read for some of its fields. All members are kept, and what cannot
  be read, or lies too deep, does no harm in a member that nobody asks for.
-/

namespace EventConsole.Json

/-- An open container. Items read so far are kept last first. The members of an
object are lost when one of its names cannot be read. -/
inductive Frame where
  /-- An array that takes a value, or also its end when nothing was read. -/
  | arrayItem (items : List Value)
  /-- An array after an item: a comma or its end. -/
  | arrayNext (items : List Value)
  /-- An object that takes a name, or also its end when nothing was read. -/
  | objectName (members : Option Members)
  /-- An object after a name: a colon. -/
  | objectColon (members : Option Members) (name : String)
  /-- An object after a colon: a value. -/
  | objectValue (members : Option Members) (name : String)
  /-- An object after a member: a comma or its end. -/
  | objectNext (members : Option Members)
  /-- An object after a comma: a name and no end. -/
  | objectMore (members : Option Members)
  /-- An array after a comma: a value and no end. -/
  | arrayMore (items : List Value)
deriving Repr

/-- The reader between two tokens. -/
inductive Reading where
  /-- Inside containers, or before the value when there are none. -/
  | within (stack : List Frame)
  | finished (value : Value)
deriving Repr

/-- How a member joins those of its object. -/
abbrev MemberRule := String → Value → Members → Members

/-- Keeps every member, also of a name that occurs again. -/
def appendMember : MemberRule := fun name value members => members ++ [(name, value)]

/-- What a reader makes of the things that values cannot show. -/
structure ReadingRule where
  member : MemberRule
  /-- The most containers inside each other. -/
  depthLimit : Option Nat
  /-- What stands for a value that cannot be read; nothing refuses the text. -/
  unreadable : Option Value

/-- The rule for a whole value. -/
def ReadingRule.whole : ReadingRule := ⟨setMember, some 127, none⟩

/-- The rule for a record none of whose fields is a Boolean: what cannot be read
stands as one, so that no field accepts it. -/
def ReadingRule.record : ReadingRule := ⟨appendMember, none, some (.boolean false)⟩

/-- Gives a completed value to the innermost container. -/
def accept (rule : ReadingRule) (value : Value) : List Frame → Option Reading
  | [] => some (.finished value)
  | .arrayItem items :: outer | .arrayMore items :: outer =>
      some (.within (.arrayNext (value :: items) :: outer))
  | .objectValue members name :: outer =>
      some (.within (.objectNext (members.map (rule.member name value)) :: outer))
  | _ => none

/-- Whether a value may start here. -/
def takesValue : List Frame → Bool
  | [] => true
  | .arrayItem _ :: _ | .arrayMore _ :: _ | .objectValue _ _ :: _ => true
  | _ => false

def ReadingRule.allowsDepth (rule : ReadingRule) (stack : List Frame) : Bool :=
  match rule.depthLimit with
  | none => true
  | some limit => stack.length < limit

def openFrame (rule : ReadingRule) (frame : Frame) (stack : List Frame) : Option Reading :=
  if takesValue stack && rule.allowsDepth stack then some (.within (frame :: stack)) else none

def scalar? (rule : ReadingRule) : Token → Option Value
  | .null => some .null
  | .boolean value => some (.boolean value)
  | .number value => (value.map Value.number) <|> rule.unreadable
  | .string value => (value.map Value.string) <|> rule.unreadable
  | _ => none

/-- The object of some members. -/
def objectOf? (rule : ReadingRule) (members : Option Members) : Option Value :=
  (members.map Value.object) <|> rule.unreadable

/-- The object frame after a name. -/
def nameFrame? (rule : ReadingRule) (members : Option Members) : Option String → Option Frame
  | some name => some (.objectColon members name)
  | none => if rule.unreadable.isSome then some (.objectColon none "") else none

/-- One token. -/
def Reading.step (rule : ReadingRule) (reading : Reading) (token : Token) : Option Reading :=
  match reading with
  | .finished _ => none
  | .within stack =>
      match token, stack with
      | .openArray, stack => openFrame rule (.arrayItem []) stack
      | .openObject, stack => openFrame rule (.objectName (some [])) stack
      | .closeArray, .arrayItem items :: outer | .closeArray, .arrayNext items :: outer =>
          accept rule (.array items.reverse) outer
      | .closeObject, .objectName members :: outer
      | .closeObject, .objectNext members :: outer =>
          (objectOf? rule members).bind fun value => accept rule value outer
      | .comma, .arrayNext items :: outer => some (.within (.arrayMore items :: outer))
      | .comma, .objectNext members :: outer => some (.within (.objectMore members :: outer))
      | .colon, .objectColon members name :: outer =>
          some (.within (.objectValue members name :: outer))
      | .string name, .objectName members :: outer
      | .string name, .objectMore members :: outer =>
          (nameFrame? rule members name).map fun frame => .within (frame :: outer)
      | token, stack => (scalar? rule token).bind fun value => accept rule value stack

def Reading.run (rule : ReadingRule) (reading : Reading) : List Token → Option Reading
  | [] => some reading
  | token :: rest =>
      match reading.step rule token with
      | none => none
      | some next => next.run rule rest

/-- The value of a text under a rule. -/
def readBy? (rule : ReadingRule) (text : List Char) : Option Value :=
  match (tokens? text).bind (Reading.run rule (.within [])) with
  | some (.finished value) => some value
  | _ => none

def readChars? (text : List Char) : Option Value := readBy? .whole text

/-- The value of a JSON text. -/
def read? (text : String) : Option Value := readChars? text.toList

/-- The value of a JSON text that is read for the fields of a record. -/
def readRecord? (text : String) : Option Value := readBy? .record text.toList

end EventConsole.Json
