/-!
Contract: strict Base64 with the standard alphabet.

Three bytes become four characters. Reading accepts canonical text only: the
padding completes the last group, and the bits that a padded group leaves over
are zero.
-/

namespace EventConsole.Text.Base64

/-- The character of a six-bit value. -/
def symbol (value : Nat) : Char :=
  if value < 26 then Char.ofNat (65 + value)
  else if value < 52 then Char.ofNat (71 + value)
  else if value < 62 then Char.ofNat (value - 4)
  else if value = 62 then '+'
  else '/'

/-- The six-bit value of a character of the alphabet. -/
def value? (c : Char) : Option Nat :=
  let code := c.toNat
  if 65 ≤ code ∧ code ≤ 90 then some (code - 65)
  else if 97 ≤ code ∧ code ≤ 122 then some (code - 71)
  else if 48 ≤ code ∧ code ≤ 57 then some (code + 4)
  else if c = '+' then some 62
  else if c = '/' then some 63
  else none

def encode : List UInt8 → List Char
  | [] => []
  | [a] =>
      let n := a.toNat * 16
      [symbol (n / 64), symbol (n % 64), '=', '=']
  | [a, b] =>
      let n := (a.toNat * 256 + b.toNat) * 4
      [symbol (n / 4096), symbol (n / 64 % 64), symbol (n % 64), '=']
  | a :: b :: c :: rest =>
      let n := (a.toNat * 256 + b.toNat) * 256 + c.toNat
      symbol (n / 262144) :: symbol (n / 4096 % 64) :: symbol (n / 64 % 64) ::
        symbol (n % 64) :: encode rest

/-- Reads one group of four characters that is not the last. -/
def decodeGroup? (w x y z : Char) : Option (List UInt8) := do
  let w ← value? w
  let x ← value? x
  let y ← value? y
  let z ← value? z
  let n := ((w * 64 + x) * 64 + y) * 64 + z
  return [UInt8.ofNat (n / 65536), UInt8.ofNat (n / 256 % 256), UInt8.ofNat (n % 256)]

/-- Reads the last group, which may be padded. -/
def decodeLast? (w x y z : Char) : Option (List UInt8) :=
  if z = '=' then
    if y = '=' then do
      let w ← value? w
      let x ← value? x
      if x % 16 = 0 then return [UInt8.ofNat ((w * 64 + x) / 16)] else none
    else do
      let w ← value? w
      let x ← value? x
      let y ← value? y
      let n := (w * 64 + x) * 64 + y
      if y % 4 = 0 then
        return [UInt8.ofNat (n / 1024), UInt8.ofNat (n / 4 % 256)]
      else none
  else decodeGroup? w x y z

def decode? : List Char → Option (List UInt8)
  | [] => some []
  | [w, x, y, z] => decodeLast? w x y z
  | w :: x :: y :: z :: rest => do
      let group ← decodeGroup? w x y z
      let tail ← decode? rest
      return group ++ tail
  | _ => none

end EventConsole.Text.Base64
