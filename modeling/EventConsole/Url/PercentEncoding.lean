import EventConsole.Text.Utf8

/-!
Contract: percent-encoding of text in the parts of a URL.

A byte is written as itself or as `%` with two upper-case hexadecimal digits.
Which ASCII characters are encoded depends on the part; all others always are.

Owns: the sets of encoded characters, encoding and decoding.
-/

namespace EventConsole.Url

/-! ### What each part encodes -/

def isControl (c : Char) : Bool := c.toNat < 32 || c.toNat = 127

def encodedInFragment (c : Char) : Bool :=
  isControl c || c == ' ' || c == '"' || c == '<' || c == '>' || c.toNat = 0x60

def encodedInQuery (c : Char) : Bool :=
  isControl c || c == ' ' || c == '"' || c == '#' || c == '<' || c == '>'

/-- The query of a special scheme also encodes the apostrophe. -/
def encodedInSpecialQuery (c : Char) : Bool := encodedInQuery c || c.toNat = 0x27

def encodedInPath (c : Char) : Bool :=
  encodedInFragment c || c == '#' || c == '?' || c.toNat = 0x7B || c.toNat = 0x7D

def encodedInUserinfo (c : Char) : Bool :=
  encodedInPath c || c == '/' || c == ':' || c == ';' || c == '=' || c == '@' || c == '[' ||
    c == '\\' || c == ']' || c == '^' || c == '|'

/-! ### Encoding -/

def hexDigit (value : Nat) : Char :=
  if value < 10 then Char.ofNat (48 + value) else Char.ofNat (55 + value)

def encodeByte (byte : UInt8) : List Char :=
  ['%', hexDigit (byte.toNat / 16), hexDigit (byte.toNat % 16)]

def encodeChar (encoded : Char → Bool) (c : Char) : List Char :=
  if c.toNat < 128 && !encoded c then [c] else (Text.Utf8.encodeChar c).flatMap encodeByte

def percentEncode (encoded : Char → Bool) (text : List Char) : List Char :=
  text.flatMap (encodeChar encoded)

/-! ### Decoding -/

def hexValue? (c : Char) : Option Nat :=
  let code := c.toNat
  if 48 ≤ code ∧ code ≤ 57 then some (code - 48)
  else if 65 ≤ code ∧ code ≤ 70 then some (code - 55)
  else if 97 ≤ code ∧ code ≤ 102 then some (code - 87)
  else none

/-- The byte of two hexadecimal digits. -/
def hexByte? (high low : Char) : Option UInt8 :=
  match hexValue? high, hexValue? low with
  | some h, some l => some (UInt8.ofNat (16 * h + l))
  | _, _ => none

/-- The bytes of a text; a `%` without two digits stands for itself. -/
def percentDecode : List Char → List UInt8
  | [] => []
  | '%' :: high :: low :: rest =>
      match hexByte? high low with
      | some byte => byte :: percentDecode rest
      | none => 0x25 :: percentDecode (high :: low :: rest)
  | c :: rest => Text.Utf8.encodeChar c ++ percentDecode rest

end EventConsole.Url
