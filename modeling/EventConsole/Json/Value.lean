import EventConsole.Binary64.Shortest

/-!
Contract: JSON values.

An object keeps its members in order and every reader gives it distinct names.
A number remembers how it was written: a natural number or a negative integer
of 64 bits stays exact, everything else is a binary floating-point number.

Owns: the value type, its equality, and member access.

Does not own: text, or the reading of values as domain types.
-/

namespace EventConsole.Json

inductive Number where
  | natural (value : UInt64)
  /-- The integer `-(below + 1)`. -/
  | negative (below : BitVec 63)
  | real (value : Binary64)
deriving DecidableEq, Repr

inductive Value where
  | null
  | boolean (value : Bool)
  | number (value : Number)
  | string (value : String)
  | array (items : List Value)
  | object (members : List (String × Value))
deriving Repr, Inhabited

/-- Members of an object, in order. -/
abbrev Members := List (String × Value)

/-- The value of the first member of a name. -/
def lookup? (name : String) : Members → Option Value
  | [] => none
  | (key, value) :: rest => if key = name then some value else lookup? name rest

/-- Replaces the value under a name in place, or adds the member at the end. -/
def setMember (name : String) (value : Value) : Members → Members
  | [] => [(name, value)]
  | (key, old) :: rest =>
      if key = name then (key, value) :: rest else (key, old) :: setMember name value rest

namespace Value

def member? (value : Value) (name : String) : Option Value :=
  match value with
  | .object members => lookup? name members
  | _ => none

def text? : Value → Option String
  | .string value => some value
  | _ => none

/-- The string under a name, or the empty string. -/
def textMember (value : Value) (name : String) : String :=
  ((value.member? name).bind text?).getD ""

/-- A whole number, which must be small enough to be exact. -/
def ofNat (n : Nat) : Value := .number (.natural (UInt64.ofNat n))

def ofInt (i : Int) : Value :=
  match i with
  | .ofNat n => ofNat n
  | .negSucc n => .number (.negative (BitVec.ofNat 63 n))

/-- Absent text is written as null. -/
def ofText? : Option String → Value
  | some text => .string text
  | none => .null

mutual

/-- Equality of values, member order included. -/
def same : Value → Value → Bool
  | .null, .null => true
  | .boolean a, .boolean b => a == b
  | .number a, .number b => decide (a = b)
  | .string a, .string b => a == b
  | .array a, .array b => sameItems a b
  | .object a, .object b => sameMembers a b
  | _, _ => false

def sameItems : List Value → List Value → Bool
  | [], [] => true
  | a :: as, b :: bs => same a b && sameItems as bs
  | _, _ => false

def sameMembers : Members → Members → Bool
  | [], [] => true
  | (ka, a) :: as, (kb, b) :: bs => ka == kb && same a b && sameMembers as bs
  | _, _ => false

end

instance : BEq Value := ⟨same⟩

end Value

end EventConsole.Json
