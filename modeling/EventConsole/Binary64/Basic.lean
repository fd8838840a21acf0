import EventConsole.Natural

/-!
Contract: finite binary floating point by exact rounding.

A number is its 64-bit pattern. Every operation forms the exact quotient of two
natural numbers and rounds it once, to the nearest pattern, a tie going to the
even significand; so each rule of arithmetic is a rule about `ofRatio`.

Owns:
- the reading of a pattern as sign, significand and power of two;
- rounding a quotient to a pattern;
- the sums, products and quotients that charts and number reading need.

Does not own: decimal text.
-/

namespace EventConsole

/-- A binary floating-point number, given by its bit pattern. -/
structure Binary64 where
  bits : UInt64
deriving DecidableEq, Repr

namespace Binary64

/-- The least magnitude pattern that no finite number has. -/
def infinityBits : Nat := 0x7FF0000000000000

def signBit : Nat := 0x8000000000000000

def negative (x : Binary64) : Bool := signBit ≤ x.bits.toNat

/-- The pattern without its sign. -/
def magnitude (x : Binary64) : Nat := x.bits.toNat % signBit

def isZero (x : Binary64) : Bool := x.magnitude = 0

def isInfinite (x : Binary64) : Bool := x.magnitude = infinityBits

/-- The whole number `m` of the value `m * 2 ^ power`. -/
def significand (x : Binary64) : Nat :=
  if x.magnitude < powerOf 2 52 then x.magnitude else powerOf 2 52 + x.magnitude % powerOf 2 52

/-- The exponent of two belonging to `significand`. -/
def power (x : Binary64) : Int :=
  if x.magnitude < powerOf 2 52 then -1074 else (x.magnitude / powerOf 2 52 : Nat) - 1075

/-- Numerator and denominator of the magnitude. -/
def ratio (x : Binary64) : Nat × Nat :=
  match x.power with
  | .ofNat up => (x.significand * powerOf 2 up, 1)
  | .negSucc down => (x.significand, powerOf 2 (down + 1))

/-- The nearest whole number to a quotient, a tie going to the even neighbour. -/
def divHalfEven (num den : Nat) : Nat :=
  let floor := num / den
  let twice := 2 * (num % den)
  if twice < den then floor
  else if den < twice then floor + 1
  else if floor % 2 = 0 then floor
  else floor + 1

/-- The nearest whole number to a quotient, a tie going away from zero. -/
def divHalfUp (num den : Nat) : Nat :=
  (2 * num + den) / (2 * den)

/-- `num / den` counted in units of `2 ^ power`, as a quotient again. -/
def inUnits (num den : Nat) : Int → Nat × Nat
  | .ofNat up => (num, den * powerOf 2 up)
  | .negSucc down => (num * powerOf 2 (down + 1), den)

/-- The power of two that leaves 53 significant bits, or the least power. -/
def unitPower (num den : Nat) : Int :=
  let guess : Int := (num.log2 : Int) - (den.log2 : Int) - 52
  let scaled := inUnits num den guess
  let exact := if scaled.1 < powerOf 2 52 * scaled.2 then guess - 1 else guess
  max exact (-1074)

/-- Pattern of the number nearest to a quotient; what is too large is infinite. -/
def magnitudeOfRatio (num den : Nat) : Nat :=
  if num = 0 then 0
  else
    let power := unitPower num den
    let scaled := inUnits num den power
    min ((power + 1074).toNat * powerOf 2 52 + divHalfEven scaled.1 scaled.2) infinityBits

def ofMagnitude (negative : Bool) (magnitude : Nat) : Binary64 :=
  ⟨UInt64.ofNat (if negative then signBit + magnitude else magnitude)⟩

/-- The number nearest to a signed quotient. -/
def ofRatio (negative : Bool) (num den : Nat) : Binary64 :=
  ofMagnitude negative (magnitudeOfRatio num den)

def ofNat (n : Nat) : Binary64 := ofRatio false n 1

def zero : Binary64 := ⟨0⟩

def neg (x : Binary64) : Binary64 := ofMagnitude (!x.negative) x.magnitude

def mul (x y : Binary64) : Binary64 :=
  ofRatio (x.negative != y.negative) (x.ratio.1 * y.ratio.1) (x.ratio.2 * y.ratio.2)

/-- Quotient of two numbers; the divisor is not zero. -/
def div (x y : Binary64) : Binary64 :=
  ofRatio (x.negative != y.negative) (x.ratio.1 * y.ratio.2) (x.ratio.2 * y.ratio.1)

/-- The exact value as a fraction with a signed numerator. -/
def fraction (x : Binary64) : Int × Nat :=
  (if x.negative then -(x.ratio.1 : Int) else x.ratio.1, x.ratio.2)

def sub (x y : Binary64) : Binary64 :=
  let difference := x.fraction.1 * y.fraction.2 - y.fraction.1 * x.fraction.2
  ofRatio (difference < 0) difference.natAbs (x.fraction.2 * y.fraction.2)

/-- The whole part of a number that is not negative. -/
def floor (x : Binary64) : Nat := x.ratio.1 / x.ratio.2

/-- The nearest whole number, a half going up; the number is not negative. -/
def roundHalfUp (x : Binary64) : Nat := divHalfUp x.ratio.1 x.ratio.2

/-- The nearest whole number, a half going to the even neighbour. -/
def roundHalfEven (x : Binary64) : Nat := divHalfEven x.ratio.1 x.ratio.2

end Binary64

end EventConsole
