import EventConsole.LogFilter.Pattern

/-!
Contract: which log records a filter text admits.

The text is a list of directives, separated by commas. A directive names a level
for all records or for the records of some target, with all targets that begin
with its text; what is no level is a target with all its records. Directives
with a span in brackets concern records inside that span only.

Of the directives that concern a record the most specific decides, and of two with
the same target and fields the last. Without any directive only errors are admitted.
-/

namespace EventConsole

inductive LogLevel where
  | off
  | error
  | warn
  | info
  | debug
  | trace
deriving DecidableEq, Repr

namespace LogLevel

def rank : LogLevel → Nat
  | .off => 0
  | .error => 1
  | .warn => 2
  | .info => 3
  | .debug => 4
  | .trace => 5

def all : List LogLevel := [.off, .error, .warn, .info, .debug, .trace]

def name : LogLevel → List Char
  | .off => ['o', 'f', 'f']
  | .error => ['e', 'r', 'r', 'o', 'r']
  | .warn => ['w', 'a', 'r', 'n']
  | .info => ['i', 'n', 'f', 'o']
  | .debug => ['d', 'e', 'b', 'u', 'g']
  | .trace => ['t', 'r', 'a', 'c', 'e']

/-- A level by its rank or by its name in any letter case. -/
def ofText? (text : List Char) : Option LogLevel :=
  match Text.natural? 6 text with
  | some rank => all.find? fun level => level.rank == rank
  | none => all.find? fun level => level.name == text.map Char.toLower

end LogLevel

/-- A directive of a filter. -/
structure LogDirective where
  target : List Char
  level : LogLevel
  /-- Names that a record must have among its fields. -/
  fields : List (List Char)
  /-- The directive holds inside a span or for a field value only. -/
  isLocal : Bool
deriving DecidableEq, Repr

namespace LogDirective

/-- The level after the equals sign; none means all records. -/
def levelAfter? (text : List Char) : Option LogLevel :=
  if text.isEmpty then some .trace else LogLevel.ofText? text

/-- What follows the brackets: nothing, or a level. The level is read from the
place `place` of the text as given. -/
def levelAt? (text : List Char) (place : Nat) : List Char → Option LogLevel
  | [] => some .trace
  | '=' :: _ => levelAfter? (text.drop (place + 1))
  | _ => none

/-- A number in decimal or scientific notation, without its sign. -/
def isUnsignedReal (text : List Char) : Bool :=
  let (whole, rest) := text.span Text.isDecimalDigit
  let (fraction, rest) :=
    match rest with
    | '.' :: rest => rest.span Text.isDecimalDigit
    | rest => ([], rest)
  let exponent :=
    match rest with
    | [] => true
    | c :: rest =>
        let digits := if rest.head? = some '+' ∨ rest.head? = some '-' then rest.drop 1 else rest
        c.toLower == 'e' && (Text.digits? digits).isSome
  !(whole.isEmpty && fraction.isEmpty) && exponent

/-- Whether a text is a number, infinite ones included. -/
def isReal (text : List Char) : Bool :=
  let size := if text.head? = some '+' ∨ text.head? = some '-' then text.drop 1 else text
  isUnsignedReal size ||
    ["inf", "infinity", "nan"].any fun word => word.toList == size.map Char.toLower

/-- Whether a text can be the value of a field: a number or a pattern. -/
def isFieldValue (text : List Char) : Bool := isReal text || LogFilter.Pattern.isValid text

/-- The name of a field, and whether a value is asked of it. The value ends at the
next equals sign; what follows is not looked at. -/
def field? (text : List Char) : Option (List Char × Bool) :=
  match text.span (· ≠ '=') with
  | ([], []) => none
  | (name, []) => some (name, false)
  | (name, _ :: rest) => if isFieldValue (rest.takeWhile (· ≠ '=')) then some (name, true) else none

/-- The directive of a target and what is seen after its opening bracket, which
begins at the place `place` of the text. -/
def bracketed? (target text : List Char) (place : Nat) (seen : List Char) : Option LogDirective :=
  let (span, after) := seen.span fun c => c ≠ ']' && c.toNat ≠ 0x7B
  let place := place + span.length + 1
  match after with
  | [] => none
  | ']' :: rest => (levelAt? text place rest).map fun level => ⟨target, level, [], true⟩
  | _ :: inner =>
      let (field, after) := inner.span fun c => c.toNat ≠ 0x7D
      match after with
      | _ :: ']' :: rest => do
          let (name, hasValue) ← field? ((text.drop place).take field.length)
          let level ← levelAt? text (place + field.length + 2) rest
          return ⟨target, level, [name], !span.isEmpty || hasValue⟩
      | _ => none

def isStart (c : Char) : Bool :=
  c == '-' || c == ':' || c == '_' || Text.isLetterOrNumber c

/-- A level for all records, or a target with all its records. -/
def levelOrTarget (text : List Char) : LogDirective :=
  match LogLevel.ofText? text with
  | some level => ⟨[], level, [], false⟩
  | none => ⟨text, .trace, [], false⟩

/-- One directive. Its marks are looked for without the white space around it, but
its names and levels are read at the same places of the whole text; so white
space in front moves them, and white space behind belongs to the last. -/
def parse? (text : List Char) : Option LogDirective :=
  match Text.trim text with
  | [] => none
  | '[' :: rest => bracketed? [] text 1 rest
  | first :: rest =>
      let seen := first :: rest
      let size := (seen.takeWhile fun c => c ≠ '=' && c ≠ '[').length
      if !isStart first then none
      else
        match seen.drop size with
        | [] => some (levelOrTarget text)
        | '=' :: _ => (levelAfter? (text.drop (size + 1))).map fun level =>
            ⟨text.take size, level, [], false⟩
        | _ :: rest => bracketed? (text.take size) text (size + 1) rest

/-- Whether the first of two texts comes later in the order by characters. -/
def isLater : List Char → List Char → Bool
  | [], _ => false
  | _ :: _, [] => true
  | a :: as, b :: bs => b.toNat < a.toNat || (a == b && isLater as bs)

/-- Whether the first of two lists of names comes later, name by name. -/
def namesLater : List (List Char) → List (List Char) → Bool
  | [], _ => false
  | _ :: _, [] => true
  | a :: as, b :: bs => isLater a b || (a == b && namesLater as bs)

/-- Whether a directive goes before another one of those that concern a record. A
longer target does, then one with more fields, and then the later names; a
directive replaces an earlier one with the same target and fields. -/
def precedes (a b : LogDirective) : Bool :=
  if a.target.length ≠ b.target.length then b.target.length < a.target.length
  else if a.fields.length ≠ b.fields.length then b.fields.length < a.fields.length
  else a.fields == b.fields || namesLater a.fields b.fields

end LogDirective

/-- A log record, as far as filters look at it. -/
structure LogRecord where
  target : List Char
  level : LogLevel
  fields : List (List Char)

def LogDirective.concerns (directive : LogDirective) (record : LogRecord) : Bool :=
  !directive.isLocal && directive.target.isPrefixOf record.target &&
    directive.fields.all fun field => record.fields.contains field

namespace LogFilter

/-- The directives of a filter text, if all of them can be read. -/
def directives? (text : String) : Option (List LogDirective) :=
  ((text.toList.splitOn ',').filter fun part => !part.isEmpty).mapM LogDirective.parse?

/-- The directive that decides about a record. -/
def deciding? (directives : List LogDirective) (record : LogRecord) : Option LogDirective :=
  (directives.filter fun directive => directive.concerns record).foldl (fun chosen directive =>
    match chosen with
    | none => some directive
    | some other => if directive.precedes other then some directive else some other) none

def admitsBy (directives : List LogDirective) (record : LogRecord) : Bool :=
  match deciding? directives record with
  | some directive => record.level.rank ≤ directive.level.rank
  | none => false

/-- Whether a filter text admits a record. An unreadable text counts as `info`. -/
def admits (text : String) (record : LogRecord) : Bool :=
  match directives? text with
  | none => record.level.rank ≤ LogLevel.info.rank
  | some [] => record.level.rank ≤ LogLevel.error.rank
  | some directives => admitsBy directives record

/-- The record that a run writes when logging starts. -/
def startRecord : LogRecord :=
  ⟨"siemtop".toList, .info, ["message".toList, "log".toList]⟩

end LogFilter

end EventConsole
