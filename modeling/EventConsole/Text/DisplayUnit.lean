import EventConsole.Text.Letter
import EventConsole.Text.UnitTable

/-!
Contract: displayed units.

A displayed unit is a run of characters that are shown together: a letter with
its marks, a joined emoji, a flag, a syllable, consonants bound by a sign.

Owns: the class of a character, and where one unit ends and the next begins.
-/

namespace EventConsole.Text

/-- The role of a character in joining with its neighbours. -/
inductive JoinClass where
  | other
  | carriageReturn
  | lineFeed
  | control
  | extend
  | joiner
  | spacingMark
  | prepend
  | regional
  | leadingJamo
  | vowelJamo
  | trailingJamo
  | openSyllable
  | closedSyllable
deriving DecidableEq, Repr

def isPictograph (c : Char) : Bool := inRanges pictographRanges c.toNat

def isConsonant (c : Char) : Bool := inRanges consonantRanges c.toNat

def isLinker (c : Char) : Bool := inRanges linkerRanges c.toNat

def isRegional (c : Char) : Bool := 0x1F1E6 ≤ c.toNat && c.toNat ≤ 0x1F1FF

def joinClass (c : Char) : JoinClass :=
  let n := c.toNat
  if n = 0xD then .carriageReturn
  else if n = 0xA then .lineFeed
  else if n < 0x20 then .control
  else if n < 0x7F then .other
  else if n = 0x200D then .joiner
  else if inRanges controlRanges n then .control
  else if n < 0x300 then .other
  else if inRanges extendRanges n then .extend
  else if inRanges spacingMarkRanges n then .spacingMark
  else if inRanges prependRanges n then .prepend
  else if isRegional c then .regional
  else if (0x1100 ≤ n ∧ n ≤ 0x115F) ∨ (0xA960 ≤ n ∧ n ≤ 0xA97C) then .leadingJamo
  else if (0x1160 ≤ n ∧ n ≤ 0x11A7) ∨ (0xD7B0 ≤ n ∧ n ≤ 0xD7C6) ∨ n = 0x16D63 ∨
      (0x16D67 ≤ n ∧ n ≤ 0x16D6A) then .vowelJamo
  else if (0x11A8 ≤ n ∧ n ≤ 0x11FF) ∨ (0xD7CB ≤ n ∧ n ≤ 0xD7FB) then .trailingJamo
  else if 0xAC00 ≤ n ∧ n ≤ 0xD7A3 then
    if (n - 0xAC00) % 28 = 0 then .openSyllable else .closedSyllable
  else .other

/-- A consonant with the marks that follow it. -/
inductive Conjunct where
  | none
  | consonant
  /-- A sign among the marks binds the consonant to the next one. -/
  | linked
deriving DecidableEq, Repr

/-- The state after one more character. Only marks that may stand inside a
conjunct keep it open; a non-joiner ends it. -/
def Conjunct.add (conjunct : Conjunct) (kind : JoinClass) (c : Char) : Conjunct :=
  if isConsonant c then .consonant
  else if (kind == .extend || kind == .joiner) && c.toNat != 0x200C then
    match conjunct with
    | .none => .none
    | .consonant => if isLinker c then .linked else .consonant
    | .linked => .linked
  else .none

/-- What of the unit so far matters for the next boundary. -/
structure JoinContext where
  last : JoinClass
  /-- The unit ends in a pictograph followed by extending characters only. -/
  pictograph : Bool
  /-- The joiner at the end follows such a pictograph. -/
  joinedPictograph : Bool
  /-- An odd number of regional indicators ends the unit. -/
  openRegional : Bool
  conjunct : Conjunct

def JoinContext.start (c : Char) : JoinContext :=
  let kind := joinClass c
  ⟨kind, isPictograph c, false, kind == .regional, Conjunct.none.add kind c⟩

def JoinContext.add (context : JoinContext) (c : Char) : JoinContext :=
  let kind := joinClass c
  { last := kind
    pictograph := isPictograph c || (context.pictograph && kind == .extend)
    joinedPictograph := kind == .joiner && context.pictograph
    openRegional := kind == .regional && !context.openRegional
    conjunct := context.conjunct.add kind c }

def isBreakAround : JoinClass → Bool
  | .control | .carriageReturn | .lineFeed => true
  | _ => false

/-- Whether a character continues the unit before it. -/
def JoinContext.joins (context : JoinContext) (c : Char) : Bool :=
  let kind := joinClass c
  match context.last, kind with
  | .carriageReturn, .lineFeed => true
  | last, next =>
      if isBreakAround last || isBreakAround next then false
      else
        match last, next with
        | _, .extend | _, .joiner | _, .spacingMark => true
        | .prepend, _ => true
        | .leadingJamo, .leadingJamo | .leadingJamo, .vowelJamo
        | .leadingJamo, .openSyllable | .leadingJamo, .closedSyllable => true
        | .openSyllable, .vowelJamo | .openSyllable, .trailingJamo
        | .vowelJamo, .vowelJamo | .vowelJamo, .trailingJamo => true
        | .closedSyllable, .trailingJamo | .trailingJamo, .trailingJamo => true
        | .regional, .regional => context.openRegional
        | _, _ =>
            (context.joinedPictograph && isPictograph c) ||
              (context.conjunct == .linked && isConsonant c)

/-- Collects units; `current` holds the open unit, last character first. -/
def unitsFrom (context : JoinContext) (current : List Char) : List Char → List (List Char)
  | [] => [current.reverse]
  | c :: rest =>
      if context.joins c then unitsFrom (context.add c) (c :: current) rest
      else current.reverse :: unitsFrom (JoinContext.start c) [c] rest

/-- The displayed units of a text, in order. -/
def units : List Char → List (List Char)
  | [] => []
  | c :: rest => unitsFrom (JoinContext.start c) [c] rest

end EventConsole.Text
