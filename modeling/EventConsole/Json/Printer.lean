import EventConsole.Json.Value

/-!
Contract: JSON text of a value.

Compact text has no spaces. Pretty text puts every item and member on a line of
its own, two spaces deeper than its container; empty containers stay `[]` and
an empty pair of braces. Strings escape the quote, the backslash and the
controls, and nothing else.
-/

namespace EventConsole.Json

def hexDigit (n : Nat) : Char :=
  if n < 10 then Char.ofNat (48 + n) else Char.ofNat (87 + n)

/-- How a character stands inside a quoted string. -/
def escapeChar (c : Char) : List Char :=
  if c = '"' then ['\\', '"']
  else if c = '\\' then ['\\', '\\']
  else if c.toNat = 8 then ['\\', 'b']
  else if c.toNat = 9 then ['\\', 't']
  else if c.toNat = 10 then ['\\', 'n']
  else if c.toNat = 12 then ['\\', 'f']
  else if c.toNat = 13 then ['\\', 'r']
  else if c.toNat < 32 then
    ['\\', 'u', '0', '0', hexDigit (c.toNat / 16), hexDigit (c.toNat % 16)]
  else [c]

def quote (text : String) : List Char :=
  '"' :: text.toList.flatMap escapeChar ++ ['"']

def natText (n : Nat) : List Char := Nat.toDigits 10 n

def Number.text : Number → List Char
  | .natural value => natText value.toNat
  | .negative below => '-' :: natText (below.toNat + 1)
  | .real value => value.text

namespace Value

/-- Text of a value that contains no other. -/
def scalarText : Value → List Char
  | .null => "null".toList
  | .boolean true => "true".toList
  | .boolean false => "false".toList
  | .number value => value.text
  | .string value => quote value
  | .array _ => ['[', ']']
  | .object _ => ['\x7b', '\x7d']

mutual

def compactChars : Value → List Char
  | .array [] => ['[', ']']
  | .array (item :: rest) => '[' :: compactChars item ++ compactItems rest
  | .object [] => ['\x7b', '\x7d']
  | .object ((key, value) :: rest) =>
      '\x7b' :: quote key ++ ':' :: compactChars value ++ compactMembers rest
  | scalar => scalarText scalar

/-- The items after the first, with the closing bracket. -/
def compactItems : List Value → List Char
  | [] => [']']
  | item :: rest => ',' :: compactChars item ++ compactItems rest

/-- The members after the first, with the closing brace. -/
def compactMembers : Members → List Char
  | [] => ['\x7d']
  | (key, value) :: rest =>
      ',' :: quote key ++ ':' :: compactChars value ++ compactMembers rest

end

def compact (value : Value) : String := String.ofList value.compactChars

def indent (depth : Nat) : List Char := List.replicate (2 * depth) ' '

/-- Puts text before the first of some lines. -/
def openFirst (head : List Char) : List (List Char) → List (List Char)
  | [] => [head]
  | line :: rest => (head ++ line) :: rest

/-- Puts a comma after the last of some lines. -/
def closeLast : List (List Char) → List (List Char)
  | [] => [[',']]
  | [line] => [line ++ [',']]
  | line :: rest => line :: closeLast rest

mutual

/-- Lines of a value whose first line is already indented by its container. -/
def linesAt (depth : Nat) : Value → List (List Char)
  | .array (item :: rest) =>
      ['['] :: itemLines (depth + 1) (item :: rest) ++ [indent depth ++ [']']]
  | .object (member :: rest) =>
      ['\x7b'] :: memberLines (depth + 1) (member :: rest) ++ [indent depth ++ ['\x7d']]
  | scalar => [scalarText scalar]

def itemLines (depth : Nat) : List Value → List (List Char)
  | [] => []
  | [item] => openFirst (indent depth) (linesAt depth item)
  | item :: rest =>
      closeLast (openFirst (indent depth) (linesAt depth item)) ++ itemLines depth rest

def memberLines (depth : Nat) : Members → List (List Char)
  | [] => []
  | [(key, value)] =>
      openFirst (indent depth ++ quote key ++ [':', ' ']) (linesAt depth value)
  | (key, value) :: rest =>
      closeLast (openFirst (indent depth ++ quote key ++ [':', ' ']) (linesAt depth value)) ++
        memberLines depth rest

end

/-- The lines of the pretty text. No line holds a line break: strings escape theirs. -/
def prettyLines (value : Value) : List (List Char) := linesAt 0 value

def joinLines : List (List Char) → List Char
  | [] => []
  | [line] => line
  | line :: rest => line ++ '\n' :: joinLines rest

def pretty (value : Value) : String := String.ofList (joinLines value.prettyLines)

end Value

end EventConsole.Json
