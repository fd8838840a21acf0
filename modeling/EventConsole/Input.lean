/-!
Contract: what the user does at the terminal.
-/

namespace EventConsole

inductive Key where
  | char (c : Char)
  | enter
  | escape
  | tab
  | backTab
  | backspace
  | delete
  | insert
  | up
  | down
  | left
  | right
  | pageUp
  | pageDown
  | home
  | endKey
  | function (number : Nat)
deriving DecidableEq, Repr

structure KeyPress where
  key : Key
  control : Bool
deriving DecidableEq, Repr

/-- A key without modifiers. -/
def Key.press (key : Key) : KeyPress := ⟨key, false⟩

inductive MouseAction where
  | leftDown
  | rightDown
  | leftUp
  | scrollUp
  | scrollDown
  | moved
deriving DecidableEq, Repr

structure MouseEvent where
  action : MouseAction
  column : Nat
  row : Nat
deriving DecidableEq, Repr

end EventConsole
