import EventConsole.Text.Letter

/-!
Contract: natural numbers, and whole numbers in decimal text.

Powers and totals are functions of this library, so that their meaning does not depend
on the algebra that a reader has in scope. In text a sign is allowed, digits are ASCII
and there is at least one. A value outside the range that is asked for is no number.
-/

namespace EventConsole

/-- `base ^ exponent`. -/
abbrev powerOf (base exponent : Nat) : Nat := Nat.pow base exponent

/-- The sum of a list. -/
def sumOf : List Nat → Nat
  | [] => 0
  | n :: rest => n + sumOf rest

theorem le_sumOf_of_mem {number : Nat} {numbers : List Nat} (member : number ∈ numbers) :
    number ≤ sumOf numbers := by
  induction numbers with
  | nil => contradiction
  | cons first rest inductionHypothesis =>
      rw [sumOf]
      rcases List.mem_cons.mp member with rfl | inRest
      · exact Nat.le_add_right _ _
      · exact Nat.le_trans (inductionHypothesis inRest) (Nat.le_add_left _ _)

end EventConsole

namespace EventConsole.Text

def isDecimalDigit (c : Char) : Bool := '0' ≤ c && c ≤ '9'

def decimalValue (digits : List Char) : Nat :=
  digits.foldl (fun value c => value * 10 + (c.toNat - 48)) 0

/-- Digits alone. -/
def digits? (text : List Char) : Option Nat :=
  if !text.isEmpty && text.all isDecimalDigit then some (decimalValue text) else none

/-- A number from zero to below a bound; a plus sign may stand before it. -/
def natural? (bound : Nat) (text : List Char) : Option Nat :=
  let digits := if text.head? = some '+' then text.drop 1 else text
  (digits? digits).filter (· < bound)

/-- A number of 64 signed bits. -/
def signed64? (text : List Char) : Option Int :=
  match text with
  | '-' :: rest => ((digits? rest).filter (· ≤ powerOf 2 63)).map fun n => -(n : Int)
  | _ => (natural? (powerOf 2 63) text).map Int.ofNat

/-- A 64-bit number with white space around it. -/
def word64? (text : String) : Option UInt64 :=
  (natural? (powerOf 2 64) (trim text.toList)).map UInt64.ofNat

end EventConsole.Text
