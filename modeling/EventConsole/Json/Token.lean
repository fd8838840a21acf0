import EventConsole.Json.Value
import EventConsole.Natural

/-!
Contract: JSON text as a sequence of tokens.

Owns: strings with their escapes, numbers and the rule by which their digits
become a number, the three words and the six marks. White space between tokens
is dropped.

A string that holds half of a character, and a number that is too large, are
tokens without a value: they are well written but cannot be read.

Numbers: a lone run of digits that fits 64 bits stays an integer. Any other
number fills a 64-bit significand with as many digits as fit, and then takes one
multiplication or division by a power of ten, which may round differently from
the nearest number.
-/

namespace EventConsole.Json

inductive Token where
  | openArray
  | closeArray
  | openObject
  | closeObject
  | colon
  | comma
  | null
  | boolean (value : Bool)
  | number (value : Option Number)
  | string (value : Option String)
deriving DecidableEq, Repr

/-! ### Numbers -/

def significandLimit : Nat := powerOf 2 64

/-- Digits taken into a significand while it fits, and how many were taken. -/
def absorb (significand : Nat) : List Nat → Nat × Nat
  | [] => (significand, 0)
  | digit :: rest =>
      if significand * 10 + digit < significandLimit then
        let taken := absorb (significand * 10 + digit) rest
        (taken.1, taken.2 + 1)
      else (significand, 0)

def largestTenPower : Nat := 308

/-- A number times ten to a power that is not positive; it may run down to zero. -/
def divideByTens (x : Binary64) (tens : Nat) : Binary64 :=
  if _fits : tens ≤ largestTenPower then x.div (Binary64.ofNat (powerOf 10 tens))
  else if x.isZero then x
  else divideByTens (x.div (Binary64.ofNat (powerOf 10 largestTenPower))) (tens - largestTenPower)
termination_by tens
decreasing_by simp [largestTenPower] at *; omega

/-- `significand * 10 ^ exponent`, or nothing when it is too large. -/
def scaleByTens? (significand : Nat) (exponent : Int) : Option Binary64 :=
  let x := Binary64.ofNat significand
  match exponent with
  | .negSucc below => some (divideByTens x (below + 1))
  | .ofNat tens =>
      if tens ≤ largestTenPower then
        let product := x.mul (Binary64.ofNat (powerOf 10 tens))
        if product.isInfinite then none else some product
      else if x.isZero then some x
      else none

/-- The parts of a written number. -/
structure Written where
  negative : Bool
  whole : List Nat
  fraction : Option (List Nat)
  exponent : Option Int
deriving Repr

/-- The integer of a run of digits without sign, fraction or exponent. -/
def integer (negative : Bool) (value : Nat) : Number :=
  if negative then
    if 0 < value ∧ value ≤ powerOf 2 63 then .negative (BitVec.ofNat 63 (value - 1))
    else .real (Binary64.ofNat value).neg
  else .natural (UInt64.ofNat value)

def Written.number? (written : Written) : Option Number :=
  let whole := absorb 0 written.whole
  let dropped := written.whole.length - whole.2
  if dropped = 0 ∧ written.fraction.isNone ∧ written.exponent.isNone then
    some (integer written.negative whole.1)
  else
    let fraction := absorb whole.1 (written.fraction.getD [])
    let exponent : Int := dropped - fraction.2 + written.exponent.getD 0
    (scaleByTens? fraction.1 exponent).map fun x =>
      .real (if written.negative then x.neg else x)

def digit? (c : Char) : Option Nat :=
  if '0' ≤ c ∧ c ≤ '9' then some (c.toNat - 48) else none

/-- The digits at the start of a text and what follows them. -/
def digits : List Char → List Nat × List Char
  | [] => ([], [])
  | c :: rest =>
      match digit? c with
      | some d =>
          let found := digits rest
          (d :: found.1, found.2)
      | none => ([], c :: rest)

/-- Whole part: a zero on its own, or digits that do not start with one. -/
def wholePart? (text : List Char) : Option (List Nat × List Char) :=
  match digits text with
  | ([], _) => none
  | (0 :: _ :: _, _) => none
  | found => some found

def fractionPart? : List Char → Option (Option (List Nat) × List Char)
  | '.' :: rest =>
      match digits rest with
      | ([], _) => none
      | (found, after) => some (some found, after)
  | text => some (none, text)

def ofDigits (found : List Nat) : Nat := found.foldl (fun value d => value * 10 + d) 0

def signedExponent? (negative : Bool) (text : List Char) : Option (Option Int × List Char) :=
  match digits text with
  | ([], _) => none
  | (found, after) =>
      let size : Int := ofDigits found
      some (some (if negative then -size else size), after)

def exponentPart? : List Char → Option (Option Int × List Char)
  | 'e' :: '+' :: rest | 'E' :: '+' :: rest => signedExponent? false rest
  | 'e' :: '-' :: rest | 'E' :: '-' :: rest => signedExponent? true rest
  | 'e' :: rest | 'E' :: rest => signedExponent? false rest
  | text => some (none, text)

/-- Reads a number whose sign has been taken. -/
def number? (negative : Bool) (text : List Char) : Option (Option Number × List Char) := do
  let (whole, text) ← wholePart? text
  let (fraction, text) ← fractionPart? text
  let (exponent, text) ← exponentPart? text
  return (Written.number? ⟨negative, whole, fraction, exponent⟩, text)

/-! ### Strings -/

def hexValue? (c : Char) : Option Nat :=
  if '0' ≤ c ∧ c ≤ '9' then some (c.toNat - 48)
  else if 'a' ≤ c ∧ c ≤ 'f' then some (c.toNat - 87)
  else if 'A' ≤ c ∧ c ≤ 'F' then some (c.toNat - 55)
  else none

def hexUnit? (a b c d : Char) : Option Nat := do
  return (((← hexValue? a) * 16 + (← hexValue? b)) * 16 + (← hexValue? c)) * 16 + (← hexValue? d)

def isHighSurrogate (unit : Nat) : Bool := 0xD800 ≤ unit && unit ≤ 0xDBFF

def isLowSurrogate (unit : Nat) : Bool := 0xDC00 ≤ unit && unit ≤ 0xDFFF

/-- The character of a one-letter escape. -/
def shortEscape? : Char → Option Char
  | '"' => some '"'
  | '\\' => some '\\'
  | '/' => some '/'
  | 'b' => some '\x08'
  | 'f' => some '\x0c'
  | 'n' => some '\n'
  | 'r' => some '\r'
  | 't' => some '\t'
  | _ => none

/-- Joins the two halves of a character. -/
def joinSurrogates (high low : Nat) : Char :=
  Char.ofNat (0x10000 + (high - 0xD800) * 0x400 + (low - 0xDC00))

/-- The text of a string so far. -/
structure StringPart where
  /-- The characters, last first; lost when half of a character stands alone. -/
  taken : Option (List Char)
  /-- The first half of a character whose second half must follow. -/
  half : Option Nat

namespace StringPart

def empty : StringPart := ⟨some [], none⟩

/-- The characters up to here, if no half is left over. -/
def complete (part : StringPart) : Option (List Char) :=
  match part.half with
  | none => part.taken
  | some _ => none

def add (part : StringPart) (c : Char) : StringPart := ⟨part.complete.map (c :: ·), none⟩

/-- Adds a unit of sixteen bits given by its number. -/
def addUnit (part : StringPart) (unit : Nat) : StringPart :=
  if isHighSurrogate unit then ⟨part.complete, some unit⟩
  else if isLowSurrogate unit then
    match part.half with
    | some high => ⟨part.taken.map (joinSurrogates high unit :: ·), none⟩
    | none => ⟨none, none⟩
  else part.add (Char.ofNat unit)

end StringPart

/-- Reads up to the closing quote. -/
def stringBody (part : StringPart) : List Char → Option (Option (List Char) × List Char)
  | [] => none
  | '"' :: rest => some (part.complete.map List.reverse, rest)
  | '\\' :: 'u' :: a :: b :: c :: d :: rest =>
      match hexUnit? a b c d with
      | none => none
      | some unit => stringBody (part.addUnit unit) rest
  | '\\' :: c :: rest =>
      match shortEscape? c with
      | none => none
      | some plain => stringBody (part.add plain) rest
  | c :: rest => if c.toNat < 32 then none else stringBody (part.add c) rest

/-! ### Tokens -/

def isGap (c : Char) : Bool := c = ' ' || c = '\n' || c = '\t' || c = '\r'

/-- Reads one token at the start of a text; blanks give none and are skipped. -/
def token? : List Char → Option (Option Token × List Char)
  | [] => none
  | '[' :: rest => some (some .openArray, rest)
  | ']' :: rest => some (some .closeArray, rest)
  | '\x7b' :: rest => some (some .openObject, rest)
  | '\x7d' :: rest => some (some .closeObject, rest)
  | ':' :: rest => some (some .colon, rest)
  | ',' :: rest => some (some .comma, rest)
  | '"' :: rest => (stringBody .empty rest).map fun (body, after) =>
      (some (.string (body.map String.ofList)), after)
  | 't' :: 'r' :: 'u' :: 'e' :: rest => some (some (.boolean true), rest)
  | 'f' :: 'a' :: 'l' :: 's' :: 'e' :: rest => some (some (.boolean false), rest)
  | 'n' :: 'u' :: 'l' :: 'l' :: rest => some (some .null, rest)
  | '-' :: rest => (number? true rest).map fun (value, after) => (some (.number value), after)
  | c :: rest =>
      if isGap c then some (none, rest)
      else (number? false (c :: rest)).map fun (value, after) => (some (.number value), after)

/-- All tokens of a text. Every token takes at least one character, so as many
rounds as there are characters are enough. -/
def tokensWithin : Nat → List Char → Option (List Token)
  | _, [] => some []
  | 0, _ => none
  | rounds + 1, text =>
      match token? text with
      | none => none
      | some (none, rest) => tokensWithin rounds rest
      | some (some token, rest) => (tokensWithin rounds rest).map (token :: ·)

def tokens? (text : List Char) : Option (List Token) := tokensWithin text.length text

end EventConsole.Json
