/-!
Contract: labels of any script as ASCII text.

The ASCII characters of a label come first. The others follow as differences of
code points and places, each a number of variable length in base 36 whose digit
weights adapt to the numbers before it.
-/

namespace EventConsole.Url.Punycode

def digit (value : Nat) : Char :=
  if value < 26 then Char.ofNat (97 + value) else Char.ofNat (22 + value)

def digitValue? (c : Char) : Option Nat :=
  let code := c.toNat
  if 97 ≤ code ∧ code ≤ 122 then some (code - 97)
  else if 65 ≤ code ∧ code ≤ 90 then some (code - 65)
  else if 48 ≤ code ∧ code ≤ 57 then some (code - 22)
  else none

/-- Where the digits of a number end: a digit below the threshold is the last. -/
def threshold (position bias : Nat) : Nat := min 26 (max 1 (position - bias))

theorem threshold_positive (position bias : Nat) : 1 ≤ threshold position bias := by
  unfold threshold
  omega

theorem threshold_small (position bias : Nat) : threshold position bias ≤ 26 := by
  unfold threshold
  omega

/-- Divides a difference down to the range of one digit, counting 36 a division. -/
def shrink (difference position : Nat) : Nat × Nat :=
  if 455 < difference then shrink (difference / 35) (position + 36) else (difference, position)
termination_by difference
decreasing_by exact Nat.div_lt_self (by omega) (by omega)

/-- The bias after a difference, when `count` characters are placed. -/
def adapt (difference count : Nat) (first : Bool) : Nat :=
  let damped := difference / if first then 700 else 2
  let (low, position) := shrink (damped + damped / count) 0
  position + 36 * low / (low + 38)

/-! ### Encoding -/

def numberDigits (bias position number : Nat) : List Char :=
  let least := threshold position bias
  if number < least then [digit number]
  else
    digit (least + (number - least) % (36 - least)) ::
      numberDigits bias (position + 36) ((number - least) / (36 - least))
termination_by number
decreasing_by
  have positive := threshold_positive position bias
  have quotient := Nat.div_le_self (number - threshold position bias)
    (36 - threshold position bias)
  omega

structure Writing where
  output : List Char
  difference : Nat
  bias : Nat
  placed : Nat

/-- Passes one character of the label in the round of a code point. -/
def writeChar (basicCount code : Nat) (writing : Writing) (c : Char) : Writing :=
  if c.toNat < code then { writing with difference := writing.difference + 1 }
  else if c.toNat = code then
    { output := writing.output ++ numberDigits writing.bias 36 writing.difference
      difference := 0
      bias := adapt writing.difference (writing.placed + 1) (writing.placed == basicCount)
      placed := writing.placed + 1 }
  else writing

/-- One round for each code point beyond ASCII, in increasing order. -/
def writeRounds (label : List Char) (basicCount : Nat) :
    List Nat → Nat → Writing → Writing
  | [], _, writing => writing
  | code :: rest, next, writing =>
      let skipped := writing.difference + (code - next) * (writing.placed + 1)
      let round := label.foldl (writeChar basicCount code) { writing with difference := skipped }
      writeRounds label basicCount rest (code + 1)
        { round with difference := round.difference + 1 }

def insertCode (code : Nat) : List Nat → List Nat
  | [] => [code]
  | first :: rest =>
      if code < first then code :: first :: rest
      else if code = first then first :: rest
      else first :: insertCode code rest

def isBasic (c : Char) : Bool := c.toNat < 128

def encode (label : List Char) : List Char :=
  let basic := label.filter isBasic
  let codes := (label.filter fun c => !isBasic c).foldr (fun c codes => insertCode c.toNat codes) []
  basic ++ (if basic.isEmpty then [] else ['-']) ++
    (writeRounds label basic.length codes 128 ⟨[], 0, 72, basic.length⟩).output

/-! ### Decoding -/

structure Reading where
  output : List Char
  code : Nat
  place : Nat
  bias : Nat
  /-- The place at which the present number began. -/
  start : Nat
  weight : Nat
  position : Nat

def Reading.begin (basic : List Char) : Reading := ⟨basic, 128, 0, 72, 0, 1, 36⟩

/-- Numbers whose digits would weigh this much are too long. -/
def weightLimit : Nat := 4294967296

def readDigit (reading : Reading) (c : Char) : Option Reading :=
  match digitValue? c with
  | none => none
  | some value =>
      let place := reading.place + value * reading.weight
      let least := threshold reading.position reading.bias
      if value < least then
        let count := reading.output.length + 1
        let code := reading.code + place / count
        let index := place % count
        if code.isValidChar then
          some
            { output := reading.output.take index ++ Char.ofNat code :: reading.output.drop index
              code := code
              place := index + 1
              bias := adapt (place - reading.start) count (reading.start == 0)
              start := index + 1
              weight := 1
              position := 36 }
        else none
      else
        let weight := reading.weight * (36 - least)
        if weight < weightLimit then
          some { reading with place := place, weight := weight, position := reading.position + 36 }
        else none

def readDigits (reading : Reading) : List Char → Option (List Char)
  | [] => if reading.position = 36 then some reading.output else none
  | c :: rest => (readDigit reading c).bind fun reading => readDigits reading rest

/-- The label that a text stands for. The last hyphen ends its ASCII characters, of which
there is at least one then. -/
def decode? (text : List Char) : Option (List Char) :=
  let reversed := text.reverse
  let digits := (reversed.takeWhile (· ≠ '-')).reverse
  match reversed.dropWhile (· ≠ '-') with
  | [] => readDigits (Reading.begin []) digits
  | [_] => none
  | _ :: basic =>
      if basic.all isBasic then readDigits (Reading.begin basic.reverse) digits else none

end EventConsole.Url.Punycode
