import EventConsole.Text.Letter
import EventConsole.Url.Composition
import EventConsole.Url.LabelTable

/-!
Contract: what the labels of a domain may look like.

A label does not begin with a mark. Joiners stand where they change how letters
look: after a sign that cancels a vowel, or between letters that join. In a domain
with letters written from right to left every label has one direction: it begins
with a letter, ends in a letter or digit of that direction, and holds no letters of
the other one.
-/

namespace EventConsole.Url

/-! ### Marks and joiners -/

def isMark (c : Char) : Bool := Text.inRanges markRanges c.toNat

/-- The joiner, which shows letters joined, and the non-joiner, which shows them apart. -/
def joiner : Char := Char.ofNat 0x200D
def nonJoiner : Char := Char.ofNat 0x200C

/-- A mark or sign through which letters join. -/
def isJoinedThrough (c : Char) : Bool :=
  Text.inRanges bareMarkRanges c.toNat || c.toNat = 0x1E94B

/-- Whether a letter joins the one after it. -/
def joinsOn (c : Char) : Bool :=
  Text.inRanges joiningRanges c.toNat || Text.inRanges joiningOnRanges c.toNat

/-- Whether a letter joins the one before it. -/
def joinsBack (c : Char) : Bool :=
  Text.inRanges joiningRanges c.toNat || Text.inRanges joiningBackRanges c.toNat

/-- Whether the first character that is not joined through has a property. -/
def nextJoins (joins : Char → Bool) (text : List Char) : Bool :=
  match text.dropWhile isJoinedThrough with
  | [] => false
  | c :: _ => joins c

/-- Signs that cancel the vowel of the letter before them. -/
def cancelsVowel (c : Char) : Bool := combiningClass c = 9

/-- Whether joiners stand where they may. `before` holds the characters before, last first. -/
def joinersFitAfter (before : List Char) : List Char → Bool
  | [] => true
  | c :: rest =>
      let fits :=
        if c = joiner ∨ c = nonJoiner then
          match before with
          | [] => false
          | previous :: _ =>
              cancelsVowel previous ||
                (c == nonJoiner && nextJoins joinsOn before && nextJoins joinsBack rest)
        else true
      fits && joinersFitAfter (c :: before) rest

def joinersFit (label : List Char) : Bool := joinersFitAfter [] label

def beginsWithMark : List Char → Bool
  | [] => false
  | c :: _ => isMark c

/-! ### Direction -/

/-- How a character takes part in the direction of a text. -/
inductive Direction where
  | rightward
  | leftward
  /-- A digit in texts of either direction. -/
  | digit
  /-- A digit in texts from right to left. -/
  | arabicDigit
  | neutral
  /-- A mark, which follows the character before it. -/
  | mark
deriving DecidableEq, Repr

/-- Marks without a width that are written as letters from left to right. -/
def rightwardMarks : List Nat := [0xCBF, 0xCC6, 0x11A07, 0x11A08, 0x11C3F]

def direction (c : Char) : Direction :=
  let code := c.toNat
  if code < 128 then
    if c.isAlpha then .rightward else if c.isDigit then .digit else .neutral
  else if Text.inRanges bareMarkRanges code then
    if rightwardMarks.contains code then .rightward else .mark
  else if Text.inRanges leftwardRanges code then .leftward
  else if Text.inRanges neutralRanges code then .neutral
  else if Text.inRanges arabicDigitRanges code then .arabicDigit
  else if Text.inRanges digitRanges code then .digit
  else .rightward

/-- Whether a domain with this character has to keep the directions of its labels apart. -/
def isLeftward (c : Char) : Bool :=
  match direction c with
  | .leftward | .arabicDigit => true
  | _ => false

/-- Whether the last character that is no mark has one of the directions. -/
def endsIn (allowed : List Direction) (label : List Direction) : Bool :=
  match label.reverse.dropWhile (· == .mark) with
  | [] => false
  | last :: _ => allowed.contains last

/-- Whether a label keeps to one direction, which its first character decides. -/
def hasOneDirection (label : List Direction) : Bool :=
  match label with
  | [] => true
  | .rightward :: _ =>
      label.all (fun d => d != .leftward && d != .arabicDigit) && endsIn [.rightward, .digit] label
  | .leftward :: _ =>
      label.all (· != .rightward) && endsIn [.leftward, .digit, .arabicDigit] label &&
        !(label.contains .digit && label.contains .arabicDigit)
  | _ => false

/-- Whether the directions of labels go together. -/
def directionsFit (labels : List (List Char)) : Bool :=
  if labels.any (fun label => label.any isLeftward) then
    labels.all fun label => hasOneDirection (label.map direction)
  else true

end EventConsole.Url
