/-!
Contract: text as UTF-8 bytes.

`encode` is total. `decode?` accepts well-formed sequences only: shortest forms,
no surrogates, nothing above U+10FFFF. `decodeLossy` never fails; each maximal
part of an ill-formed sequence becomes one U+FFFD.
-/

namespace EventConsole.Text.Utf8

def encodeChar (c : Char) : List UInt8 :=
  let n := c.toNat
  if n < 0x80 then [UInt8.ofNat n]
  else if n < 0x800 then [UInt8.ofNat (0xC0 + n / 64), UInt8.ofNat (0x80 + n % 64)]
  else if n < 0x10000 then
    [UInt8.ofNat (0xE0 + n / 4096), UInt8.ofNat (0x80 + n / 64 % 64), UInt8.ofNat (0x80 + n % 64)]
  else
    [UInt8.ofNat (0xF0 + n / 262144), UInt8.ofNat (0x80 + n / 4096 % 64),
      UInt8.ofNat (0x80 + n / 64 % 64), UInt8.ofNat (0x80 + n % 64)]

def encode (text : List Char) : List UInt8 := text.flatMap encodeChar

/-- How many bytes follow a first byte, and the range of the next one. -/
structure Lead where
  following : Nat
  low : Nat
  high : Nat
  bits : Nat

/-- What a byte promises as the first of a sequence. -/
def lead? (first : Nat) : Option Lead :=
  if first < 0x80 then some ⟨0, 0, 0, first⟩
  else if first < 0xC2 then none
  else if first < 0xE0 then some ⟨1, 0x80, 0xBF, first - 0xC0⟩
  else if first = 0xE0 then some ⟨2, 0xA0, 0xBF, 0⟩
  else if first = 0xED then some ⟨2, 0x80, 0x9F, 0xD⟩
  else if first < 0xF0 then some ⟨2, 0x80, 0xBF, first - 0xE0⟩
  else if first = 0xF0 then some ⟨3, 0x90, 0xBF, 0⟩
  else if first < 0xF4 then some ⟨3, 0x80, 0xBF, first - 0xF0⟩
  else if first = 0xF4 then some ⟨3, 0x80, 0x8F, 4⟩
  else none

/-- Where reading stands between two bytes. -/
inductive State where
  | start
  | inside (bits following low high : Nat)

/-- The characters completed or given up at one byte, and the state after it. -/
structure Step where
  output : List (Option Char)
  next : State

def fromStart (byte : Nat) : Step :=
  match lead? byte with
  | none => ⟨[none], .start⟩
  | some ⟨0, _, _, bits⟩ => ⟨[some (Char.ofNat bits)], .start⟩
  | some ⟨following, low, high, bits⟩ => ⟨[], .inside bits following low high⟩

def step (state : State) (byte : Nat) : Step :=
  match state with
  | .start => fromStart byte
  | .inside bits following low high =>
      if low ≤ byte ∧ byte ≤ high then
        let more := bits * 64 + byte % 64
        if following = 1 then ⟨[some (Char.ofNat more)], .start⟩
        else ⟨[], .inside more (following - 1) 0x80 0xBF⟩
      else
        let again := fromStart byte
        ⟨none :: again.output, again.next⟩

/-- Characters in order, with `none` for every ill-formed part. -/
def read (state : State) : List UInt8 → List (Option Char)
  | [] =>
      match state with
      | .start => []
      | .inside .. => [none]
  | byte :: rest =>
      let taken := step state byte.toNat
      taken.output ++ read taken.next rest

def decode? (bytes : List UInt8) : Option (List Char) := (read .start bytes).mapM id

def decodeLossy (bytes : List UInt8) : List Char :=
  (read .start bytes).map (·.getD (Char.ofNat 0xFFFD))

end EventConsole.Text.Utf8
