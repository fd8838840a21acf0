import EventConsole.Natural
import EventConsole.Text.CellTable
import EventConsole.Text.DisplayUnit

/-!
Contract: cutting a text to a number of characters, and how many cells of a terminal a
text takes.

A cut text shows where something is missing: three dots in the middle, or one
ellipsis character at the end.

A character takes zero to three cells on its own. Next to others it may take
fewer or more, so the cells of a text are counted from its end: what follows a
character decides what the character adds.

Owns:
- cutting and filling by characters;
- the cells of a character on its own;
- emoji sequences, which take two cells, and selectors between emoji and sign;
- pairs of letters that share a cell.

The same count applies to a line, a span and a single displayed unit. The count of
a text can differ from the sum over its units.
-/

namespace EventConsole.Text

/-- Keeps both ends of a text. A limit of three or less leaves only the dots. -/
def truncateMiddle (text : List Char) (limit : Nat) : List Char :=
  if text.length ≤ limit then text
  else if limit ≤ 3 then ['.', '.', '.']
  else
    let kept := limit - 3
    let left := kept / 2
    let right := kept - left
    text.take left ++ ['.', '.', '.'] ++ text.drop (text.length - right)

/-- Keeps the start of a text and ends it with an ellipsis. -/
def truncateEnd (text : List Char) (limit : Nat) : List Char :=
  if text.length ≤ limit then text
  else text.take (limit - 1) ++ ['…']

/-- Fills a text with spaces on the right. -/
def padRight (width : Nat) (text : List Char) : List Char :=
  text ++ List.replicate (width - text.length) ' '

/-- Fills a text with spaces on the left. -/
def padLeft (width : Nat) (text : List Char) : List Char :=
  List.replicate (width - text.length) ' ' ++ text

/-! ### Cells -/

/-- A letter that may share its cell with the letters before it. -/
inductive Ligature where
  /-- An alef, which a lam before it carries. -/
  | alef
  /-- A lamed, which joins an alef. -/
  | lamed
  /-- A Buginese ya, which joins the vowel i and then the letter a. -/
  | ya
  | vowelYa
  /-- A Tifinagh consonant, alone or behind a consonant joiner. -/
  | consonant
  | boundConsonant
  /-- A second Lisu tone letter. -/
  | tone
  /-- An Old Turkic i, which joins a t. -/
  | orkhonI
  /-- A Khmer letter that takes no cell below another letter. -/
  | subscript
deriving DecidableEq, Repr

/-- What stands behind a character, as far as the cells of the character depend on it. -/
inductive Following where
  | plain
  | lineFeed
  | skinTone
  | regional
  | regionals
  | emoji
  /-- An emoji behind a joiner. -/
  | joined
  /-- A keycap sign behind which a joiner and an emoji stand. -/
  | joinedKeycap
  /-- Regional indicators before a joiner and an emoji. -/
  | joinedRegional
  | joinedRegionals (even : Bool)
  /-- The end of a tag sequence before a joiner, with the letters and digits read so far. -/
  | joinedTag (letters digits : Nat)
  /-- `joined` tells that a joiner stands between. -/
  | ligature (kind : Ligature) (joined : Bool)
deriving DecidableEq, Repr

/-- The text behind a character, with the selectors that come first in it. -/
structure Behind where
  following : Following
  emojiForm : Bool
  textForm : Bool
deriving DecidableEq, Repr

namespace Behind

def of (following : Following) : Behind := ⟨following, false, false⟩

/-- Nothing that matters. -/
def plain : Behind := of .plain

def isLigature (behind : Behind) : Bool :=
  match behind.following with
  | .ligature _ _ => true
  | _ => false

/-- Whether an emoji before the selector would join the emoji behind it. -/
def isJoined (behind : Behind) : Bool :=
  behind.following = .joined || behind.following = .joinedKeycap

/-- The text behind an emoji selector. -/
def selectEmoji (behind : Behind) : Behind :=
  if behind.isLigature || behind.isJoined then { behind with emojiForm := true }
  else ⟨.plain, true, false⟩

/-- Ignores an emoji selector. It still separates emoji, but no letters. -/
def dropEmojiForm (behind : Behind) : Behind :=
  if !behind.emojiForm then behind
  else if behind.isLigature then { behind with emojiForm := false }
  else plain

def selectText (behind : Behind) : Behind :=
  if behind.isLigature then { behind with textForm := true } else ⟨.plain, false, true⟩

end Behind

/-! ### Characters on their own -/

/-- Letters that show their cell only at the end of such a group. -/
def ligature? (n : Nat) : Option Ligature :=
  if n < 0x5DC then none
  else if n = 0x5DC then some .lamed
  else if inRanges [(0x622, 0x623), (0x625, 0x625), (0x627, 0x627), (0x671, 0x673),
      (0x675, 0x675), (0x773, 0x774), (0x870, 0x882)] n then some .alef
  else if inRanges [(0x1780, 0x1782), (0x1784, 0x1787), (0x1789, 0x178C), (0x178E, 0x1793),
      (0x1795, 0x1798), (0x179B, 0x179D), (0x17A0, 0x17A0), (0x17A2, 0x17A2), (0x17A7, 0x17A7),
      (0x17AB, 0x17AC), (0x17AF, 0x17AF)] n then some .subscript
  else if n = 0x1A10 then some .ya
  else if (0x2D31 ≤ n ∧ n ≤ 0x2D65) ∨ n = 0x2D6F then some .consonant
  else if n = 0xA4FC ∨ n = 0xA4FD then some .tone
  else if n = 0x10C03 then some .orkhonI
  else none

/-- Cells of a character on its own. A line break takes none. -/
def charWidth (c : Char) : Nat :=
  let n := c.toNat
  if n = 0xA then 0
  else if n ≤ 0xA0 then 1
  else if n = 0x17D8 then 3
  else if inRanges zeroWidthRanges n then 0
  else if inRanges wideRanges n then 2
  else 1

/-- What a character is to the text before it, when nothing behind it matters. -/
def behindChar (c : Char) : Behind :=
  let n := c.toNat
  if n = 0xFE0F then ⟨.plain, true, false⟩
  else if n = 0xFE0E then ⟨.plain, false, true⟩
  else if isRegional c then .of .regional
  else if 0x1F3FB ≤ n ∧ n ≤ 0x1F3FF then .of .skinTone
  else
    match ligature? n with
    | some kind => .of (.ligature kind false)
    | none => if inRanges emojiRanges n then .of .emoji else .plain

/-! ### Characters next to others -/

/-- Marks that do not keep letters from sharing a cell. -/
def isTransparent (n : Nat) : Bool :=
  inRanges [(0x34F, 0x34F), (0x17B4, 0x17B5), (0x180B, 0x180D), (0x180F, 0x180F),
    (0xFE00, 0xFE0F), (0xE0100, 0xE01EF)] n

/-- Marks that do not keep Arabic letters from joining. -/
def isArabicTransparent (n : Nat) : Bool :=
  inRanges zeroWidthRanges n && !inRanges joiningZeroWidthRanges n

def isLam (n : Nat) : Bool :=
  inRanges [(0x644, 0x644), (0x6B5, 0x6B8), (0x76A, 0x76A), (0x8A6, 0x8A6), (0x8C7, 0x8C7)] n

/-- What a letter or mark adds before a letter that may share its cell, if it does
not stand apart. -/
def shareCell? (kind : Ligature) (joined : Bool) (n : Nat) : Option (Int × Behind) :=
  if kind ≠ .alef ∧ n = 0x200D then some (0, .of (.ligature kind true))
  else if kind ≠ .alef ∧ isTransparent n then some (0, .of (.ligature kind joined))
  else
    match kind with
    | .alef =>
        if isLam n then some (0, .plain)
        else if isArabicTransparent n then some (0, .of (.ligature .alef joined))
        else none
    | .lamed => if joined && n == 0x5D0 then some (0, .plain) else none
    | .ya => if joined && n == 0x1A17 then some (0, .of (.ligature .vowelYa true)) else none
    | .vowelYa => if n = 0x1A15 then some (0, .plain) else none
    | .consonant =>
        if n = 0x2D7F then some (1, .of (.ligature .boundConsonant true))
        else if joined && ligature? n == some .consonant then some (0, .plain)
        else none
    | .boundConsonant => if ligature? n = some .consonant then some (-1, .plain) else none
    | .tone => if 0xA4F8 ≤ n ∧ n ≤ 0xA4FB then some (0, .plain) else none
    | .orkhonI => if joined && n == 0x10C32 then some (0, .plain) else none
    | .subscript => if n = 0x17D2 then some (-1, .plain) else none

/-- Tag letters and digits, and the flag that they belong to, before a joiner. -/
def addTag? (letters digits n : Nat) : Option (Int × Behind) :=
  if 0xE0061 ≤ n ∧ n ≤ 0xE007A then
    if digits = 0 ∧ letters < 6 then some (0, .of (.joinedTag (letters + 1) 0)) else none
  else if 0xE0030 ≤ n ∧ n ≤ 0xE0039 then
    if digits = 0 ∧ letters ≤ 4 then some (0, .of (.joinedTag 0 1))
    else if 0 < digits ∧ digits < 3 then some (0, .of (.joinedTag 0 (digits + 1)))
    else none
  else if n = 0x1F3F4 ∧ ((digits = 0 ∧ 3 ≤ letters) ∨ digits = 3) then some (0, .of .emoji)
  else none

/-- What stands before a joiner and an emoji. -/
def joinEmoji? (c : Char) : Option (Int × Behind) :=
  let n := c.toNat
  if n = 0x20E3 then some (0, .of .joinedKeycap)
  else if isRegional c then some (1, .of .joinedRegional)
  else if 0x1F3FB ≤ n ∧ n ≤ 0x1F3FF then some (0, .of .skinTone)
  else if n = 0xE007F then some (0, .of (.joinedTag 0 0))
  else if inRanges emojiRanges n then some (0, .of .emoji)
  else none

/-- What a character adds in front of other text, where that differs from its own cells. -/
def combine? (c : Char) (following : Following) : Option (Int × Behind) :=
  let n := c.toNat
  match following with
  | .plain | .lineFeed => none
  | .ligature kind joined => shareCell? kind joined n
  | .skinTone =>
      if n = 0x200D then some (0, .of .joined)
      else if inRanges toneBaseRanges n then some (0, .of .emoji)
      else none
  | .regional => if isRegional c then some (1, .of .regionals) else none
  | .regionals =>
      if n = 0x200D then some (0, .of .joined)
      else if isRegional c then some (1, .of .regionals)
      else none
  | .emoji => if n = 0x200D then some (0, .of .joined) else none
  | .joined => joinEmoji? c
  | .joinedKeycap => none
  | .joinedRegional => if isRegional c then some (-1, .of (.joinedRegionals true)) else none
  | .joinedRegionals even =>
      if n = 0x200D then some (0, .of .joined)
      else if isRegional c then
        if even then some (3, .of (.joinedRegionals false))
        else some (-1, .of (.joinedRegionals true))
      else none
  | .joinedTag letters digits => addTag? letters digits n

/-- What a character adds to a text, given the text behind it. -/
def addChar (c : Char) (behind : Behind) : Int × Behind :=
  let n := c.toNat
  if behind.emojiForm && inRanges emojiFormRanges n then
    (if behind.isJoined then 0 else 2, .of .emoji)
  else
    let behind := behind.dropEmojiForm
    if c = '\n' then (0, .of .lineFeed)
    else if c = '\r' ∧ behind.following = .lineFeed then (0, .plain)
    else if n ≤ 0xA0 then (1, .plain)
    else if behind = .plain then (charWidth c, behindChar c)
    else if n = 0xFE0F then (0, behind.selectEmoji)
    else if n = 0xFE0E then (0, behind.selectText)
    else if behind.textForm && inRanges textFormRanges n then (1, .plain)
    else (combine? c behind.following).getD (charWidth c, behindChar c)

/-- Cells of a text on one line. -/
def textWidth (text : List Char) : Nat :=
  (text.foldr (fun c (state : Int × Behind) =>
    let (added, behind) := addChar c state.2
    (state.1 + added, behind)) (0, .plain)).1.toNat

/-- The units at the end that fit into `room` cells. Units without a cell are not
a place to cut, so none starts the rest. -/
def lastUnits (room : Nat) (units : List (List Char)) : List (List Char) :=
  match units with
  | [] => []
  | unit :: rest =>
      let width := textWidth unit
      if width = 0 then lastUnits room rest
      else if cellsOf (unit :: rest) ≤ room then unit :: rest
      else lastUnits room rest
where
  /-- Cells of units side by side. -/
  cellsOf (units : List (List Char)) : Nat := sumOf (units.map textWidth)

end EventConsole.Text
