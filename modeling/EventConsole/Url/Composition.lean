import EventConsole.Url.CombiningTable

/-!
Contract: the composed form of a domain.

A letter followed by marks is one character wherever one stands for them. Texts
that look the same get the same characters: every character is split as far as it
goes, marks are put into the order of their classes, and pairs are joined again
from the left. Korean syllables are split and joined by their position.

Owns:
- classes of marks, splitting and joining of characters;
- the composed form of a text.
-/

namespace EventConsole.Url

/-- The class in a list of runs in increasing order; characters in no run have class zero. -/
def classInRuns (runs : List (Nat × Nat × Nat)) (code : Nat) : Nat :=
  match runs with
  | [] => 0
  | (low, high, order) :: rest =>
      if code < low then 0
      else if code ≤ high then order
      else classInRuns rest code

/-- Marks of a higher class stand after those of a lower one; letters have class zero. -/
def combiningClass (c : Char) : Nat := classInRuns combiningClassRuns c.toNat

/-! ### Korean syllables -/

/-- The code points of the first syllable, consonant, vowel and final consonant.
The last of these stands for no final consonant. -/
def firstSyllable : Nat := 0xAC00
def firstConsonant : Nat := 0x1100
def firstVowel : Nat := 0x1161
def firstFinal : Nat := 0x11A7

/-- Syllables go through 19 consonants, for each through 21 vowels, and for each of
these through 28 finals. -/
def splitSyllable? (code : Nat) : Option (Nat × Nat) :=
  if firstSyllable ≤ code ∧ code < firstSyllable + 19 * 21 * 28 then
    let index := code - firstSyllable
    let final := index % 28
    if final = 0 then some (firstConsonant + index / (21 * 28), firstVowel + index / 28 % 21)
    else some (code - final, firstFinal + final)
  else none

def joinSyllable? (first second : Nat) : Option Nat :=
  if firstConsonant ≤ first ∧ first < firstConsonant + 19 ∧
      firstVowel ≤ second ∧ second < firstVowel + 21 then
    some (firstSyllable + ((first - firstConsonant) * 21 + (second - firstVowel)) * 28)
  else if firstSyllable ≤ first ∧ first < firstSyllable + 19 * 21 * 28 ∧
      (first - firstSyllable) % 28 = 0 ∧ firstFinal < second ∧ second < firstFinal + 28 then
    some (first + (second - firstFinal))
  else none

/-! ### Characters -/

/-- The two characters that a character stands for. -/
def splitChar? (c : Char) : Option (Char × Char) :=
  let code := c.toNat
  let parts :=
    if code < 128 then none
    else
      match splitSyllable? code with
      | some parts => some parts
      | none =>
          (pairings.find? fun pairing => pairing.whole == code).map fun pairing =>
            (pairing.first, pairing.second)
  parts.map fun (first, second) => (Char.ofNat first, Char.ofNat second)

/-- The character that stands for two in a row; the second is never an ASCII one. -/
def joinChars? (first second : Char) : Option Char :=
  let code :=
    if second.toNat < 128 then none
    else
      match joinSyllable? first.toNat second.toNat with
      | some code => some code
      | none =>
          (pairings.find? fun pairing =>
            pairing.first == first.toNat && pairing.second == second.toNat).map Pairing.whole
  code.map Char.ofNat

/-- What a character stands for after a number of splits; only the first part splits again. -/
def splitChar : Nat → Char → List Char
  | 0, c => [c]
  | depth + 1, c =>
      match splitChar? c with
      | none => [c]
      | some (first, second) => splitChar depth first ++ [second]

/-! ### Texts -/

/-- Puts a character before marks in order: a mark goes behind those of lower classes. -/
def placeMark (c : Char) : List Char → List Char
  | [] => [c]
  | next :: rest =>
      if 0 < combiningClass next ∧ combiningClass next < combiningClass c then
        next :: placeMark c rest
      else c :: next :: rest

/-- A text with all characters split; no character of a domain needs more than two splits. -/
def decomposed (text : List Char) : List Char :=
  (text.flatMap (splitChar 2)).foldr placeMark []

/-- Joins the characters after a letter to it. `passed` holds the marks that stay apart, last
first; a character can join past them when their classes are lower than its own. -/
def joinAfter (letter : Char) (passed : List Char) : List Char → List Char
  | [] => letter :: passed.reverse
  | c :: rest =>
      let reaches :=
        match passed with
        | [] => true
        | last :: _ => combiningClass last < combiningClass c
      match if reaches then joinChars? letter c else none with
      | some joined => joinAfter joined passed rest
      | none =>
          if combiningClass c = 0 then letter :: passed.reverse ++ joinAfter c [] rest
          else joinAfter letter (c :: passed) rest

/-- Joins what can be joined; marks before the first letter stay as they are. -/
def joinAll : List Char → List Char
  | [] => []
  | c :: rest => if combiningClass c = 0 then joinAfter c [] rest else c :: joinAll rest

/-- The composed form of a text. -/
def composed (text : List Char) : List Char := joinAll (decomposed text)

end EventConsole.Url
