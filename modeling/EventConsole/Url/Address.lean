import EventConsole.Natural
import EventConsole.Url.PercentEncoding

/-!
Contract: what can be wrong with the text of a URL, and numeric network addresses as
hosts of one.

An address of 32 bits is written as up to four numbers, decimal, octal or
hexadecimal, of which the last fills the bytes that are left. An address of 128
bits is eight groups of hexadecimal digits; one run of zeros may be left out, and
the last two groups may be four decimal bytes.
-/

namespace EventConsole.Url

/-! ### Faults -/

inductive Fault where
  | emptyHost
  | domainName
  | port
  | ipv4Address
  | ipv6Address
  | domainCharacter
  | noBase
deriving DecidableEq, Repr

def Fault.message : Fault → String
  | .emptyHost => "empty host"
  | .domainName => "invalid international domain name"
  | .port => "invalid port number"
  | .ipv4Address => "invalid IPv4 address"
  | .ipv6Address => "invalid IPv6 address"
  | .domainCharacter => "invalid domain character"
  | .noBase => "relative URL without a base"

/-! ### Numbers -/

def isOctalDigit (c : Char) : Bool := '0' ≤ c && c ≤ '7'

def isHexDigit (c : Char) : Bool := (hexValue? c).isSome

/-- The value of digits in a base; each is a digit of it. -/
def digitsValue (base : Nat) (digits : List Char) : Nat :=
  digits.foldl (fun value c => value * base + (hexValue? c).getD 0) 0

/-- A number of the 32-bit form: `0x` begins a hexadecimal one and `0` an octal one. -/
def ipv4Number? : List Char → Option Nat
  | [] => none
  | '0' :: 'x' :: digits | '0' :: 'X' :: digits =>
      if digits.all isHexDigit then some (digitsValue 16 digits) else none
  | '0' :: c :: digits =>
      if (c :: digits).all isOctalDigit then some (digitsValue 8 (c :: digits)) else none
  | digits => if digits.all Char.isDigit then some (digitsValue 10 digits) else none

/-! ### Addresses of 32 bits -/

/-- The labels of a domain. -/
def labels (text : List Char) : List (List Char) := text.splitOn '.'

/-- The labels without the empty one after a dot at the end. -/
def properLabels (text : List Char) : List (List Char) :=
  match (labels text).reverse with
  | [] :: rest => rest.reverse
  | all => all.reverse

/-- A host whose last label is a number can only be an address. -/
def endsInNumber (text : List Char) : Bool :=
  match (properLabels text).getLast? with
  | none => false
  | some last => (!last.isEmpty && last.all Char.isDigit) || (ipv4Number? last).isSome

/-- The address of numbers given last first. -/
def ipv4OfNumbers? : List Nat → Option (BitVec 32)
  | [] => none
  | last :: bytes =>
      if bytes.length ≤ 3 ∧ bytes.all (· ≤ 255) ∧ last < powerOf 256 (4 - bytes.length) then
        let high := bytes.reverse.foldl (fun value byte => value * 256 + byte) 0
        some (BitVec.ofNat 32 (high * powerOf 256 (4 - bytes.length) + last))
      else none

def parseIpv4 (text : List Char) : Except Fault (BitVec 32) :=
  let numbers := (properLabels text).mapM ipv4Number?
  match numbers.bind fun numbers => ipv4OfNumbers? numbers.reverse with
  | some address => .ok address
  | none => .error .ipv4Address

def ipv4Bytes (address : BitVec 32) : List Nat :=
  [24, 16, 8, 0].map fun shift => (address >>> shift).toNat % 256

def ipv4Text (address : BitVec 32) : String :=
  ".".intercalate ((ipv4Bytes address).map toString)

/-! ### Addresses of 128 bits -/

/-- One of four decimal bytes, without leading zeros. -/
def decimalByte? : List Char → Option Nat
  | [] => none
  | ['0'] => some 0
  | '0' :: _ => none
  | digits =>
      if digits.all Char.isDigit ∧ digitsValue 10 digits ≤ 255 then some (digitsValue 10 digits)
      else none

/-- Two groups written as four decimal bytes. -/
def dottedGroups? (text : List Char) : Option (List Nat) :=
  match (labels text).mapM decimalByte? with
  | some [a, b, c, d] => some [a * 256 + b, c * 256 + d]
  | _ => none

def hexGroup? (digits : List Char) : Option (List Nat) :=
  if 1 ≤ digits.length ∧ digits.length ≤ 4 ∧ digits.all isHexDigit then
    some [digitsValue 16 digits]
  else none

/-- The groups of a list of parts; only the last part may be dotted. -/
def ipv6Groups? : List (List Char) → Option (List Nat)
  | [] => some []
  | [part] => if part.contains '.' then dottedGroups? part else hexGroup? part
  | part :: rest =>
      match hexGroup? part, ipv6Groups? rest with
      | some group, some groups => some (group ++ groups)
      | _, _ => none

/-- The parts between colons, where an empty part stands for the zeros left out. -/
def ipv6Parts? (text : List Char) : Option (List (List Char)) :=
  let trimmed : Option (List Char) :=
    match text with
    | ':' :: ':' :: rest => some (':' :: rest)
    | ':' :: _ => none
    | _ => some text
  trimmed.bind fun text =>
    match (text.splitOn ':').reverse with
    | [] :: [] :: rest => some ([] :: rest).reverse
    | [] :: _ => none
    | parts => some parts.reverse

/-- Eight groups, with zeros filled in at the one empty part. -/
def ipv6OfParts? (parts : List (List Char)) : Option (List Nat) :=
  match parts.span (fun part => !part.isEmpty) with
  | (before, []) => (ipv6Groups? before).bind fun groups =>
      if groups.length = 8 then some groups else none
  | (before, _ :: after) =>
      match before.mapM hexGroup?, ipv6Groups? after with
      | some head, some tail =>
          let head := head.flatten
          if head.length + tail.length ≤ 7 then
            some (head ++ List.replicate (8 - head.length - tail.length) 0 ++ tail)
          else none
      | _, _ => none

def parseIpv6 (text : List Char) : Except Fault (List Nat) :=
  match (ipv6Parts? text).bind ipv6OfParts? with
  | some groups => .ok groups
  | none => .error .ipv6Address

/-- The length of the run of zeros at the head. -/
def zeroRun (groups : List Nat) : Nat := (groups.takeWhile (· = 0)).length

/-- The place and length of the first of the longest runs of at least two zeros. -/
def longestZeroRun (groups : List Nat) : Option (Nat × Nat) :=
  (List.range groups.length).foldl (fun best place =>
    let length := zeroRun (groups.drop place)
    if 2 ≤ length ∧ (best.map Prod.snd).getD 0 < length then some (place, length) else best) none

def hexText (group : Nat) : String := String.ofList (Nat.toDigits 16 group)

def colonText (groups : List Nat) : String := ":".intercalate (groups.map hexText)

/-- The groups with the longest run of zeros left out. -/
def ipv6Text (groups : List Nat) : String :=
  match longestZeroRun groups with
  | none => colonText groups
  | some (place, length) =>
      colonText (groups.take place) ++ "::" ++ colonText (groups.drop (place + length))

end EventConsole.Url
