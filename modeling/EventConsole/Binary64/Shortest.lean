import EventConsole.Binary64.Basic

/-!
Contract: the shortest decimal text of a binary number.

The digits are the fewest that read back as the number, and of those the
nearest to it. Positional notation is used while the decimal exponent lies in
`-5 ≤ e < 16`; beyond it the exponent is written with its sign.

Owns: the interval of decimals that read back, the digit search and the layout.
-/

namespace EventConsole.Binary64

/-- The decimals that round to a number: bounds in units of `2 ^ power / 4`. -/
structure Interval where
  low : Nat
  value : Nat
  high : Nat
  closed : Bool
  power : Int
deriving Repr

/-- A power of two has a nearer neighbour below than above. -/
def interval (x : Binary64) : Interval :=
  let m := x.significand
  let below := if m = powerOf 2 52 ∧ -1074 < x.power then 4 * m - 1 else 4 * m - 2
  ⟨below, 4 * m, 4 * m + 2, m % 2 = 0, x.power - 2⟩

/-- `10 ^ exponent` as numerator and denominator. -/
def tenPower : Int → Nat × Nat
  | .ofNat up => (powerOf 10 up, 1)
  | .negSucc down => (1, powerOf 10 (down + 1))

/-- The decimal exponent of the leading digit of a positive quotient. -/
def leadingExponent (num den : Nat) : Int :=
  let guess : Int := ((num.log2 : Int) - (den.log2 : Int)) * 30103 / 100000
  let reaches (e : Int) : Bool := (tenPower e).1 * den ≤ num * (tenPower e).2
  if reaches (guess + 1) then guess + 1
  else if reaches guess then guess
  else guess - 1

/-- A quotient scaled by a power of two. -/
def scaleTwo (n : Nat) : Int → Nat × Nat
  | .ofNat up => (n * powerOf 2 up, 1)
  | .negSucc down => (n, powerOf 2 (down + 1))

/-- Whether `digits * 10 ^ exponent` reads back as the number. -/
def Interval.admits (i : Interval) (digits : Nat) (exponent : Int) : Bool :=
  let ten := tenPower exponent
  let two := scaleTwo 1 i.power
  let candidate := digits * ten.1 * two.2
  let low := i.low * two.1 * ten.2
  let high := i.high * two.1 * ten.2
  if i.closed then low ≤ candidate && candidate ≤ high
  else low < candidate && candidate < high

/-- Decimal digits and the exponent of ten of the last one. -/
structure Decimal where
  digits : Nat
  exponent : Int
deriving Repr, DecidableEq

/-- The admitted neighbour of the number on one decimal grid, if there is one. -/
def onGrid (i : Interval) (num den : Nat) (exponent : Int) : Option Decimal :=
  let ten := tenPower exponent
  let scaledNum := num * ten.2
  let scaledDen := den * ten.1
  let lower := scaledNum / scaledDen
  let remainder := scaledNum % scaledDen
  let lowerOk := 0 < lower && i.admits lower exponent
  let upperOk := i.admits (lower + 1) exponent
  if lowerOk && upperOk then
    if 2 * remainder < scaledDen || (2 * remainder == scaledDen && lower % 2 == 0) then
      some ⟨lower, exponent⟩
    else some ⟨lower + 1, exponent⟩
  else if lowerOk then some ⟨lower, exponent⟩
  else if upperOk then some ⟨lower + 1, exponent⟩
  else none

/-- Tries ever finer grids, from one digit on. -/
def searchGrid (i : Interval) (num den : Nat) (lead : Int) : Nat → Nat → Decimal
  | _, 0 => ⟨num, 0⟩
  | digits, tries + 1 =>
      match onGrid i num den (lead + 1 - digits) with
      | some found => found
      | none => searchGrid i num den lead (digits + 1) tries

/-- The digits without trailing zeros. -/
def Decimal.trim (d : Decimal) : Nat → Decimal
  | 0 => d
  | tries + 1 =>
      if d.digits ≠ 0 ∧ d.digits % 10 = 0 then Decimal.trim ⟨d.digits / 10, d.exponent + 1⟩ tries
      else d

/-- The shortest decimal that reads back as a number other than zero. -/
def shortest (x : Binary64) : Decimal :=
  let (num, den) := x.ratio
  Decimal.trim (searchGrid x.interval num den (leadingExponent num den) 1 17) 20

def digitText (n : Nat) : List Char := (Nat.toDigits 10 n)

/-- Positional text of digits whose leading exponent lies in the positional range. -/
def positional (digits : List Char) (lead : Int) : List Char :=
  match lead with
  | .negSucc below => '0' :: '.' :: List.replicate below '0' ++ digits
  | .ofNat whole =>
      let size := digits.length
      if size ≤ whole + 1 then
        digits ++ List.replicate (whole + 1 - size) '0' ++ ['.', '0']
      else digits.take (whole + 1) ++ '.' :: digits.drop (whole + 1)

/-- Text with an exponent whose sign is always written. -/
def scientific (digits : List Char) (lead : Int) : List Char :=
  let mantissa :=
    match digits with
    | first :: second :: rest => first :: '.' :: second :: rest
    | short => short
  let sign := if lead < 0 then '-' else '+'
  mantissa ++ 'e' :: sign :: digitText lead.natAbs

/-- Decimal text of a finite number. -/
def text (x : Binary64) : List Char :=
  let body :=
    if x.isZero then ['0', '.', '0']
    else
      let decimal := x.shortest
      let digits := digitText decimal.digits
      let lead := decimal.exponent + digits.length - 1
      if -5 ≤ lead ∧ lead < 16 then positional digits lead else scientific digits lead
  if x.negative then '-' :: body else body

end EventConsole.Binary64
