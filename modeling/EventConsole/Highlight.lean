import EventConsole.Json.Printer
import EventConsole.Text.Letter

/-!
Contract: lines of JSON text split into classed tokens.

A line is cut from left to right, and every character goes into exactly one
token. A string that is followed by a colon is a key and takes the colon along;
words and numbers are tokens of their own; everything else is plain.

Owns: the token kinds, the cutting of one line, and the token lines of a value.
-/

namespace EventConsole.Highlight

inductive Kind where
  | key
  | string
  | number
  | boolean
  | null
  | plain
deriving DecidableEq, Repr

structure Token where
  kind : Kind
  text : List Char
deriving DecidableEq, Repr

abbrev TokenLine := List Token

/-- Characters up to and with the closing quote, after the opening one. A string
that is not closed takes the whole rest of its line. -/
def quotedLength : List Char → Nat
  | [] => 0
  | '"' :: _ => 1
  | '\\' :: _ :: rest => quotedLength rest + 2
  | _ :: rest => quotedLength rest + 1

def isDigit (c : Char) : Bool := '0' ≤ c && c ≤ '9'

def isNumberPart (c : Char) : Bool :=
  isDigit c || c == '.' || c == 'e' || c == 'E' || c == '+' || c == '-'

/-- The words that are tokens, with their kinds. -/
def words : List (List Char × Kind) :=
  [ ("true".toList, .boolean), ("false".toList, .boolean), ("null".toList, .null) ]

/-- Whether there is no letter or digit here. -/
def isEdge : Option Char → Bool
  | none => true
  | some c => !Text.isLetterOrNumber c

/-- Kind and length of the word at the start of a text, which stands on its own. -/
def wordAt? (previous : Option Char) (text : List Char) : Option (Kind × Nat) :=
  words.findSome? fun (word, kind) =>
    if word.isPrefixOf text && isEdge previous && isEdge (text.drop word.length).head? then
      some (kind, word.length)
    else none

/-- Kind and length of the string at the start of a text, given what follows its
opening quote. -/
def stringAt (afterQuote : List Char) : Kind × Nat :=
  let size := quotedLength afterQuote
  let after := afterQuote.drop size
  let gap := (after.takeWhile Text.isBlank).length
  if (after.drop gap).head? = some ':' then (.key, size + gap + 2) else (.string, size + 1)

/-- Kind and length of the token that starts here, or nothing where the
character is plain. -/
def tokenAt? (previous : Option Char) : List Char → Option (Kind × Nat)
  | [] => none
  | c :: rest =>
      if c = '"' then some (stringAt rest)
      else if isDigit c || (c == '-' && rest.head?.any isDigit) then
        some (.number, (rest.takeWhile isNumberPart).length + 1)
      else wordAt? previous (c :: rest)

/-- The plain token of collected characters, given last first, if there are any. -/
def flush : List Char → TokenLine
  | [] => []
  | collected => [⟨.plain, collected.reverse⟩]

/-- Cuts a text whose first `skip` characters belong to a token already given. -/
def tokensFrom (previous : Option Char) (skip : Nat) (plain : List Char) :
    List Char → TokenLine
  | [] => flush plain
  | c :: rest =>
      match skip with
      | left + 1 => tokensFrom (some c) left plain rest
      | 0 =>
          match tokenAt? previous (c :: rest) with
          | some (kind, size) =>
              flush plain ++ ⟨kind, (c :: rest).take size⟩ ::
                tokensFrom (some c) (size - 1) [] rest
          | none => tokensFrom (some c) 0 (c :: plain) rest

def tokenizeLine (line : List Char) : TokenLine := tokensFrom none 0 [] line

/-- The token lines of the pretty text of a value. -/
def lines (value : Json.Value) : List TokenLine := value.prettyLines.map tokenizeLine

end EventConsole.Highlight
