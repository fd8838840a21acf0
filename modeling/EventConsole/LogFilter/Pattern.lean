import EventConsole.Natural
import EventConsole.Text.Letter

/-!
Contract: which texts are patterns for field values.

A pattern is a regular expression that an automaton without look-around can
follow. It works on characters; a group may switch to bytes, where only ASCII can
be written. Classes and letter case beyond ASCII are not known to it. How deep the
parts of a pattern are nested is limited.

A closing brace ends the field that the pattern stands in, so counted repetitions
and names in braces cannot be written.

Owns: the grammar of patterns, read from left to right with the open groups as a
stack.

Does not own: what a pattern matches.
-/

namespace EventConsole.LogFilter.Pattern

/-- How the rest of a group is read. -/
structure Mode where
  ignoreCase : Bool
  /-- Characters beyond ASCII, rather than bytes. -/
  wide : Bool
  /-- White space and comments do not count. -/
  spaced : Bool
deriving DecidableEq, Repr

def Mode.initial : Mode := ⟨false, true, false⟩

/-- Without its comment. -/
def dropComment : List Char → List Char
  | [] => []
  | c :: rest => if c = '\n' then rest else dropComment rest

/-- Skips white space and comments, within as many rounds as there are characters. -/
def skipWithin : Nat → List Char → List Char
  | 0, text => text
  | rounds + 1, text =>
      match text with
      | [] => []
      | c :: rest =>
          if Text.isBlank c then skipWithin rounds rest
          else if c = '#' then skipWithin rounds (dropComment rest)
          else c :: rest

def Mode.skip (mode : Mode) (text : List Char) : List Char :=
  if mode.spaced then skipWithin text.length text else text

/-! ### Nesting -/

/-- How deep the parts of a group or of brackets are nested. Two items in a row are a part of
their own around the items, and so are alternatives and the sets beside an operator. -/
structure Nesting where
  /-- The depth of what stands before the last bar or operator, if there was one. -/
  before : Option Nat
  /-- Items since then. -/
  items : Nat
  /-- The depth of the deepest of them but the last. -/
  deepest : Nat
  last : Nat
deriving DecidableEq, Repr

namespace Nesting

/-- The depth to which a pattern may be nested. -/
def limit : Nat := 250

def empty : Nesting := ⟨none, 0, 0, 0⟩

/-- One more item of a depth. -/
def add (nesting : Nesting) (depth : Nat) : Nesting :=
  { nesting with
    items := nesting.items + 1, deepest := max nesting.deepest nesting.last, last := depth }

/-- The last item is repeated. -/
def repeated (nesting : Nesting) : Nesting := { nesting with last := nesting.last + 1 }

/-- The depth of the items since the last bar or operator. -/
def row (nesting : Nesting) : Nat :=
  if nesting.items ≤ 1 then nesting.last else max nesting.deepest nesting.last + 1

def whole (nesting : Nesting) : Nat :=
  match nesting.before with
  | none => nesting.row
  | some before => max before nesting.row + 1

/-- Goes on with another alternative. All of them are at one depth. -/
def alternative (nesting : Nesting) : Nesting :=
  { empty with before := some (max (nesting.before.getD 0) nesting.row) }

/-- Goes on with the set after an operator, which is around all sets before it. -/
def operand (nesting : Nesting) : Nesting := { empty with before := some nesting.whole }

end Nesting

/-! ### Single items -/

/-- What a pattern says about one place of a text. -/
inductive Item where
  | character (code : Nat)
  /-- A byte given by its number. -/
  | byte (code : Nat)
  /-- Any character but a line break. -/
  | any
  /-- An edge of the text or of a line. -/
  | edge
  /-- An edge of a word. -/
  | wordEdge
  /-- Digits, blanks or word characters, or all others. -/
  | class (others : Bool)
deriving DecidableEq, Repr

/-- Characters with a meaning of their own, which an escape takes away. -/
def isMark (c : Char) : Bool := "\\.+*?()|[]{}^$#&-~".toList.contains c

/-- Characters that an escape leaves as they are. -/
def isPlainAfterEscape (c : Char) : Bool :=
  isMark c || (c.toNat < 128 && !c.isAlphanum && c != '<' && c != '>')

def hexDigit? (c : Char) : Option Nat :=
  if '0' ≤ c ∧ c ≤ '9' then some (c.toNat - 48)
  else if 'a' ≤ c ∧ c ≤ 'f' then some (c.toNat - 87)
  else if 'A' ≤ c ∧ c ≤ 'F' then some (c.toNat - 55)
  else none

/-- A fixed number of hexadecimal digits. -/
def hexDigits? (mode : Mode) : Nat → Nat → List Char → Option (Nat × List Char)
  | 0, value, text => some (value, text)
  | count + 1, value, text =>
      match mode.skip text with
      | [] => none
      | c :: rest =>
          match hexDigit? c with
          | none => none
          | some digit => hexDigits? mode count (value * 16 + digit) rest

/-- A character given by its number. -/
def numbered? (mode : Mode) (digits : Nat) (text : List Char) : Option (Nat × List Char) := do
  let (code, rest) ← hexDigits? mode digits 0 text
  if code.isValidChar then return (code, mode.skip rest) else none

/-- The item of an escape, after its backslash. -/
def escape? (mode : Mode) : List Char → Option (Item × List Char)
  | [] => none
  | 'x' :: rest => (numbered? mode 2 rest).map fun (code, rest) => (.byte code, rest)
  | 'u' :: rest => (numbered? mode 4 rest).map fun (code, rest) => (.character code, rest)
  | 'U' :: rest => (numbered? mode 8 rest).map fun (code, rest) => (.character code, rest)
  | c :: rest =>
      if c = 'd' ∨ c = 's' ∨ c = 'w' then some (.class false, rest)
      else if c = 'D' ∨ c = 'S' ∨ c = 'W' then some (.class true, rest)
      else if c = 'A' ∨ c = 'z' then some (.edge, rest)
      else if c = 'b' ∨ c = 'B' ∨ c = '<' ∨ c = '>' then some (.wordEdge, rest)
      else if c = 'a' then some (.character 7, rest)
      else if c = 'f' then some (.character 12, rest)
      else if c = 't' then some (.character 9, rest)
      else if c = 'n' then some (.character 10, rest)
      else if c = 'r' then some (.character 13, rest)
      else if c = 'v' then some (.character 11, rest)
      else if isPlainAfterEscape c then some (.character c.toNat, rest)
      else none

/-- Whether an item may stand outside brackets. -/
def Item.isAllowed (mode : Mode) : Item → Bool
  | .character _ => !(mode.ignoreCase && mode.wide)
  | .byte code => if mode.wide then !mode.ignoreCase else code < 128
  | .any => mode.wide
  | .edge => true
  | .wordEdge => !mode.wide
  | .class others => !mode.wide && !others

/-! ### Brackets -/

/-- Ways of combining two sets in brackets. -/
inductive SetOperator where
  | both
  | without
  | either
deriving DecidableEq, Repr

/-- Open brackets. Of the set it only matters whether it holds anything beyond
ASCII, which bytes must not; it holds all or nothing of that. -/
structure Bracket where
  negated : Bool
  /-- The sets before the last operator, and that operator. -/
  before : Option (Bool × SetOperator)
  /-- The set since then. -/
  beyond : Bool
  nesting : Nesting
deriving DecidableEq, Repr

namespace Bracket

/-- The set so far. -/
def set (bracket : Bracket) : Bool :=
  match bracket.before with
  | none => bracket.beyond
  | some (before, .both) => before && bracket.beyond
  | some (before, .without) => before && !bracket.beyond
  | some (before, .either) => before != bracket.beyond

def combine (bracket : Bracket) (operator : SetOperator) : Bracket :=
  { bracket with
    before := some (bracket.set, operator), beyond := false, nesting := bracket.nesting.operand }

def add (bracket : Bracket) (beyond : Bool) (depth : Nat) : Bracket :=
  { bracket with beyond := bracket.beyond || beyond, nesting := bracket.nesting.add depth }

/-- The whole set once the brackets are closed. -/
def closed (bracket : Bracket) : Bool := bracket.set != bracket.negated

/-- The depth with the brackets around it. -/
def depth (bracket : Bracket) : Nat := bracket.nesting.whole + 1

end Bracket

/-- Drops hyphens that stand first, and counts them as items. -/
def dropHyphens (mode : Mode) (nesting : Nesting) : Nat → List Char → Nesting × List Char
  | 0, text => (nesting, text)
  | rounds + 1, text =>
      match text with
      | '-' :: rest => dropHyphens mode (nesting.add 0) rounds (mode.skip rest)
      | text => (nesting, text)

/-- Reads what may stand first in brackets: a caret, hyphens, and a closing bracket
as the first item. -/
def openBracket (mode : Mode) (text : List Char) : Bracket × List Char :=
  let text := mode.skip text
  let negated := text.head? == some '^'
  let text := if negated then mode.skip (text.drop 1) else text
  let (nesting, text) := dropHyphens mode .empty text.length text
  match nesting.items, text with
  | 0, ']' :: rest => (⟨negated, none, false, nesting.add 0⟩, mode.skip rest)
  | _, rest => (⟨negated, none, false, nesting⟩, rest)

def namedClasses : List (List Char) :=
  ["alnum", "alpha", "ascii", "blank", "cntrl", "digit", "graph", "lower", "print", "punct",
    "space", "upper", "word", "xdigit"].map String.toList

/-- A class given by name, after its opening bracket, and whether it means all
other characters. -/
def namedClass? : List Char → Option (Bool × List Char)
  | ':' :: rest =>
      let others := rest.head? == some '^'
      let rest := if others then rest.drop 1 else rest
      let (name, after) := rest.span (· ≠ ':')
      match after with
      | ':' :: ']' :: after => if namedClasses.contains name then some (others, after) else none
      | _ => none
  | _ => none

/-- An item in brackets. -/
def bracketItem? (mode : Mode) : List Char → Option (Item × List Char)
  | [] => none
  | '\\' :: rest => escape? mode rest
  | c :: rest => some (.character c.toNat, rest)

/-- The code of an item that can end a range; bytes reach no further than ASCII. -/
def Item.code? (mode : Mode) : Item → Option Nat
  | .character code | .byte code => if mode.wide || code < 128 then some code else none
  | _ => none

/-- Whether an item in brackets reaches beyond ASCII, if it may stand there. -/
def Item.beyond? (mode : Mode) : Item → Option Bool
  | .class others => if mode.wide then none else some others
  | item => (item.code? mode).map fun _ => false

/-- An item or a range in brackets. -/
def bracketRange? (mode : Mode) (text : List Char) : Option (Bool × List Char) := do
  let (first, rest) ← bracketItem? mode text
  match mode.skip rest with
  | '-' :: rest =>
      match mode.skip rest with
      | ']' :: _ | '-' :: _ => return (← first.beyond? mode, '-' :: rest)
      | rest =>
          let (last, rest) ← bracketItem? mode rest
          if (← first.code? mode) ≤ (← last.code? mode) then return (false, rest) else none
  | rest => return (← first.beyond? mode, rest)

/-- Reads to the end of the outermost brackets, within a number of rounds; the
innermost of the open brackets is first. Gives the depth and what follows them. -/
def brackets? (mode : Mode) : Nat → List Bracket → List Char → Option (Nat × List Char)
  | 0, _, _ => none
  | _, [], _ => none
  | rounds + 1, bracket :: outer, text =>
      match mode.skip text with
      | [] => none
      | '[' :: rest =>
          match namedClass? rest with
          | some (others, rest) => brackets? mode rounds (bracket.add others 0 :: outer) rest
          | none =>
              let (inner, rest) := openBracket mode rest
              brackets? mode rounds (inner :: bracket :: outer) rest
      | ']' :: rest =>
          match outer with
          | [] => if mode.wide || !bracket.closed then some (bracket.depth, rest) else none
          | parent :: outer =>
              brackets? mode rounds (parent.add bracket.closed bracket.depth :: outer) rest
      | '&' :: '&' :: rest => brackets? mode rounds (bracket.combine .both :: outer) rest
      | '-' :: '-' :: rest => brackets? mode rounds (bracket.combine .without :: outer) rest
      | '~' :: '~' :: rest => brackets? mode rounds (bracket.combine .either :: outer) rest
      | text =>
          match bracketRange? mode text with
          | none => none
          | some (beyond, rest) => brackets? mode rounds (bracket.add beyond 0 :: outer) rest

/-- The depth of brackets, after the opening one, and what follows them. Without regard to
case they are not known to the automaton, unless they are about bytes. -/
def bracketed? (mode : Mode) (text : List Char) : Option (Nat × List Char) :=
  if mode.ignoreCase && mode.wide then none
  else
    let (bracket, rest) := openBracket mode text
    brackets? mode (rest.length + 1) [bracket] rest

/-! ### Groups -/

/-- Flags of a group up to the mark that ends them. Every flag may be set once. -/
def flags? (mode : Mode) (seen : List Char) : List Char → Option (Mode × Bool × List Char)
  | [] => none
  | ')' :: rest => if seen.head? = some '-' then none else some (mode, true, rest)
  | ':' :: rest => if seen.head? = some '-' then none else some (mode, false, rest)
  | c :: rest =>
      let on := !seen.contains '-'
      if seen.contains c then none
      else if c = 'i' then flags? { mode with ignoreCase := on } (c :: seen) rest
      else if c = 'u' then flags? { mode with wide := on } (c :: seen) rest
      else if c = 'x' then flags? { mode with spaced := on } (c :: seen) rest
      else if c = 'm' ∨ c = 's' ∨ c = 'U' ∨ c = 'R' ∨ c = '-' then flags? mode (c :: seen) rest
      else none

/-- The name of a group, up to its closing angle. -/
def groupName? (text : List Char) : Option (List Char × List Char) :=
  let (name, after) := text.span (· ≠ '>')
  match name, after with
  | first :: others, _ :: rest =>
      if (first = '_' ∨ (Text.isLetterOrNumber first ∧ !first.isDigit)) ∧
          others.all (fun c => c == '_' || c == '.' || c == '[' || c == ']' ||
            Text.isLetterOrNumber c)
      then some (name, rest)
      else none
  | _, _ => none

/-- The reader of a pattern between two items. -/
structure Reader where
  mode : Mode
  /-- The last item of the branch can be repeated. -/
  repeatable : Bool
  /-- The modes and parts to return to at the ends of the open groups. -/
  groups : List (Mode × Nesting)
  nesting : Nesting
  names : List (List Char)
deriving Repr

namespace Reader

def initial : Reader := ⟨.initial, false, [], .empty, []⟩

/-- A group that is read in a mode. -/
def enter (reader : Reader) (mode : Mode) : Reader :=
  { reader with
    mode := mode
    repeatable := false
    groups := (reader.mode, reader.nesting) :: reader.groups
    nesting := .empty }

/-- The reader after an item of a depth. -/
def add (reader : Reader) (depth : Nat) : Reader :=
  { reader with repeatable := true, nesting := reader.nesting.add depth }

/-- What stands behind an opening parenthesis. -/
def group? (reader : Reader) (text : List Char) : Option (Reader × List Char) :=
  let named (rest : List Char) : Option (Reader × List Char) := do
    let (name, rest) ← groupName? rest
    if reader.names.contains name then none
    else return ({ reader.enter reader.mode with names := name :: reader.names }, rest)
  match reader.mode.skip text with
  | '?' :: 'P' :: '<' :: rest => named rest
  | '?' :: '<' :: '!' :: _ => none
  | '?' :: '<' :: rest => named rest
  | '?' :: ')' :: _ => none
  | '?' :: rest =>
      match flags? reader.mode [] rest with
      | none => none
      | some (mode, true, rest) =>
          some ({ reader.add 0 with mode := mode, repeatable := false }, rest)
      | some (mode, false, rest) => some (reader.enter mode, rest)
  | rest => some (reader.enter reader.mode, rest)

/-- One item, group mark or repetition. -/
def step? (reader : Reader) (c : Char) (rest : List Char) : Option (Reader × List Char) :=
  let item (item : Item) (rest : List Char) : Option (Reader × List Char) :=
    if item.isAllowed reader.mode then some (reader.add 0, rest) else none
  match c with
  | '(' => reader.group? rest
  | ')' =>
      match reader.groups with
      | [] => none
      | (mode, outer) :: groups =>
          let group := reader.nesting.whole + 1
          some ({ reader with mode := mode, groups := groups, nesting := outer }.add group, rest)
  | '|' => some ({ reader with repeatable := false, nesting := reader.nesting.alternative }, rest)
  | '[' => (bracketed? reader.mode rest).map fun (depth, rest) => (reader.add depth, rest)
  | '?' | '*' | '+' =>
      if reader.repeatable then
        some ({ reader with nesting := reader.nesting.repeated },
          if rest.head? = some '?' then rest.drop 1 else rest)
      else none
  | '\x7b' => none
  | '\\' => (escape? reader.mode rest).bind fun (found, rest) => item found rest
  | '.' => item .any rest
  | '^' | '$' => item .edge rest
  | c => item (.character c.toNat) rest

/-- Reads a whole pattern within a number of rounds. -/
def run : Nat → Reader → List Char → Bool
  | 0, _, _ => false
  | rounds + 1, reader, text =>
      match reader.mode.skip text with
      | [] => reader.groups.isEmpty && reader.nesting.whole ≤ Nesting.limit
      | c :: rest =>
          match reader.step? c rest with
          | none => false
          | some (next, rest) => next.run rounds rest

end Reader

/-- Whether a text is a pattern. Every step takes a character at least. -/
def isValid (text : List Char) : Bool := Reader.initial.run (text.length + 1) text

end EventConsole.LogFilter.Pattern
