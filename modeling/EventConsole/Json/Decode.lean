import EventConsole.Json.Value
import EventConsole.Natural

/-!
Contract: reading values as domain types.

A record is given by an object, or by an array of its fields in their declared
order with missing ones at the end left out. An optional field may be absent or
null. Whole numbers are exact: negative numbers and numbers written with a
fraction or an exponent are refused, as is what does not fit the width.
-/

namespace EventConsole.Json.Value

/-- The fields of a record by name. -/
def fields? (names : List String) : Value → Option (String → Option Value)
  | .object members => some (fun name => lookup? name members)
  | .array items =>
      if items.length ≤ names.length then some (fun name => (names.zip items).lookup name)
      else none
  | _ => none

/-- Whether a name stands for at most one member. -/
def isSingle (name : String) (members : Members) : Bool :=
  (members.filter fun member => member.1 == name).length ≤ 1

/-- The fields of a record none of whose fields is given twice. -/
def singleFields? (names : List String) (value : Value) : Option (String → Option Value) :=
  match value with
  | .object members =>
      if names.all fun name => isSingle name members then value.fields? names else none
  | _ => value.fields? names

/-- A field that may be absent or null. -/
def optional? {α : Type} (decode : Value → Option α) : Option Value → Option (Option α)
  | none => some none
  | some .null => some none
  | some value => (decode value).map some

/-- A field that takes a default when it is absent, and only then. -/
def defaulting? {α : Type} (decode : Value → Option α) (default : α) : Option Value → Option α
  | none => some default
  | some value => decode value

def natural? : Value → Option UInt64
  | .number (.natural value) => some value
  | _ => none

def word32? (value : Value) : Option UInt32 :=
  (natural? value).bind fun n => if n.toNat < powerOf 2 32 then some n.toUInt32 else none

def items? : Value → Option (List Value)
  | .array items => some items
  | _ => none

def members? : Value → Option Members
  | .object members => some members
  | _ => none

/-- A list whose items all decode. -/
def listOf? {α : Type} (decode : Value → Option α) (value : Value) : Option (List α) :=
  value.items?.bind (·.mapM decode)

end EventConsole.Json.Value
