import EventConsole.Natural
import EventConsole.Time.Instant

/-!
Contract: time stamps in the format of RFC 3339, and how times are shown to the reader.

Reading takes a four-digit year, `T`, `t` or a space before the time, an
optional fraction of which nine digits count, and `Z`, `z` or a signed offset of
at most 23:59. Second 60 is a leap second at any minute. Nothing may stand
before or after the stamp.

Times are shown on the universal clock. Text that is no stamp is shown as it is, and
a missing or empty time as a dash.

Owns: reading, the written forms with second and with shortest fraction, and the forms
for the reader.
-/

namespace EventConsole.Time

namespace Rfc3339

def digit? (c : Char) : Option Nat :=
  if '0' ≤ c ∧ c ≤ '9' then some (c.toNat - 48) else none

/-- Reads exactly `count` digits. -/
def fixed? : Nat → Nat → List Char → Option (Nat × List Char)
  | 0, value, text => some (value, text)
  | _ + 1, _, [] => none
  | count + 1, value, c :: rest => do
      let d ← digit? c
      fixed? count (value * 10 + d) rest

def mark? (expected : Char) : List Char → Option (List Char)
  | [] => none
  | c :: rest => if c = expected then some rest else none

def dateTimeMark? : List Char → Option (List Char)
  | c :: rest => if c = 'T' ∨ c = 't' ∨ c = ' ' then some rest else none
  | [] => none

def isDigit (c : Char) : Bool := (digit? c).isSome

/-- Nanoseconds of the digits after a point; digits after the ninth are dropped. -/
def fractionNanos (found : List Char) : Nat :=
  let kept := found.take 9
  kept.foldl (fun value c => value * 10 + (c.toNat - 48)) 0 * powerOf 10 (9 - kept.length)

def fraction? : List Char → Option (Nat × List Char)
  | '.' :: rest =>
      let found := rest.takeWhile isDigit
      if found.isEmpty then none else some (fractionNanos found, rest.dropWhile isDigit)
  | text => some (0, text)

def offsetSign? (c : Char) : Option Int :=
  if c = '+' then some 1
  else if c = '-' ∨ c = Char.ofNat 0x2212 then some (-1)
  else none

/-- Reads the offset, in seconds. -/
def offset? : List Char → Option (Int × List Char)
  | [] => none
  | c :: rest =>
      if c = 'Z' ∨ c = 'z' then some (0, rest)
      else do
        let sign ← offsetSign? c
        let (hours, rest) ← fixed? 2 0 rest
        let rest ← mark? ':' rest
        let (minutes, rest) ← fixed? 2 0 rest
        if hours ≤ 23 ∧ minutes ≤ 59 then
          return (sign * ((hours * 60 + minutes) * 60 : Nat), rest)
        else none

/-- The stamp of calendar fields, when they name a day and a time of day. -/
def assemble? (date : Date) (hour minute second nanos : Nat) (offset : Int) : Option Stamp :=
  if date.Valid ∧ hour ≤ 23 ∧ minute ≤ 59 ∧ second ≤ 60 then
    let leap := second = 60
    let ofDay : Nat := hour * 3600 + minute * 60 + (if leap then 59 else second)
    let seconds := date.toDays * secondsPerDay + ofDay - offset
    some ⟨⟨seconds, nanos + (if leap then nanosPerSecond else 0)⟩, offset⟩
  else none

/-- Reads a stamp that is the whole text. -/
def parse? (text : List Char) : Option Stamp := do
  let (year, text) ← fixed? 4 0 text
  let text ← mark? '-' text
  let (month, text) ← fixed? 2 0 text
  let text ← mark? '-' text
  let (day, text) ← fixed? 2 0 text
  let text ← dateTimeMark? text
  let (hour, text) ← fixed? 2 0 text
  let text ← mark? ':' text
  let (minute, text) ← fixed? 2 0 text
  let text ← mark? ':' text
  let (second, text) ← fixed? 2 0 text
  let (nanos, text) ← fraction? text
  let (offset, text) ← offset? text
  if text.isEmpty then assemble? ⟨year, month, day⟩ hour minute second nanos offset else none

end Rfc3339

/-- Decimal digits of a number, filled with zeros on the left. -/
def zeroPadded (width n : Nat) : List Char :=
  let text := Nat.toDigits 10 n
  List.replicate (width - text.length) '0' ++ text

/-- Four digits for the years 0 to 9999; other years carry a sign. -/
def yearText (year : Int) : List Char :=
  if 0 ≤ year ∧ year ≤ 9999 then zeroPadded 4 year.toNat
  else (if year < 0 then '-' else '+') :: zeroPadded 4 year.natAbs

namespace Clock

/-- `2024-05-01` -/
def isoDate (clock : Clock) : List Char :=
  yearText clock.date.year ++ '-' :: zeroPadded 2 clock.date.month ++
    '-' :: zeroPadded 2 clock.date.day

/-- `10:00` -/
def hourMinute (clock : Clock) : List Char :=
  zeroPadded 2 clock.hour ++ ':' :: zeroPadded 2 clock.minute

/-- `10:00:00` -/
def time (clock : Clock) : List Char := clock.hourMinute ++ ':' :: zeroPadded 2 clock.second

end Clock

/-- The signed offset of a stamp, `+05:30`. -/
def offsetText (offset : Int) : List Char :=
  let minutes := offset.natAbs / 60
  (if offset < 0 then '-' else '+') :: zeroPadded 2 (minutes / 60) ++
    ':' :: zeroPadded 2 (minutes % 60)

/-- The fraction in as few groups of three digits as show it. -/
def fractionText (nanos : Nat) : List Char :=
  if nanos = 0 then []
  else if nanos % 1000000 = 0 then '.' :: zeroPadded 3 (nanos / 1000000)
  else if nanos % 1000 = 0 then '.' :: zeroPadded 6 (nanos / 1000)
  else '.' :: zeroPadded 9 nanos

/-- Written form to the second, with a numeric offset. -/
def Stamp.secondsText (stamp : Stamp) : List Char :=
  stamp.clock.isoDate ++ 'T' :: stamp.clock.time ++ offsetText stamp.offset

/-- Written form with the shortest fraction and `Z` for no offset. -/
def Stamp.text (stamp : Stamp) : List Char :=
  stamp.clock.isoDate ++ 'T' :: stamp.clock.time ++
    fractionText (stamp.instant.nanos % nanosPerSecond) ++
    (if stamp.offset = 0 then ['Z'] else offsetText stamp.offset)

/-! ### Shown times -/

/-- Shows a stamp text through `render`. -/
def displayed (render : Clock → List Char) : Option String → String
  | none => "-"
  | some text =>
      if text.isEmpty then "-"
      else
        match Rfc3339.parse? text.toList with
        | some stamp => String.ofList (render (stamp.instant.clock 0))
        | none => text

/-- `dd.mm.yyyy HH:MM:SS` -/
def Clock.full (clock : Clock) : List Char :=
  zeroPadded 2 clock.date.day ++ '.' :: zeroPadded 2 clock.date.month ++
    '.' :: yearText clock.date.year ++ ' ' :: clock.time

/-- `dd.mm HH:MM` -/
def Clock.short (clock : Clock) : List Char :=
  zeroPadded 2 clock.date.day ++ '.' :: zeroPadded 2 clock.date.month ++
    ' ' :: clock.hourMinute

def fullDisplay (text : Option String) : String := displayed Clock.full text

def shortDisplay (text : Option String) : String := displayed Clock.short text

/-- The age of an instant in words. An instant to come is just now. -/
def ago (passed now : Instant) : String :=
  let seconds := now.secondsSince passed
  let minutes := seconds / 60
  let hours := seconds / 3600
  let days := seconds / 86400
  if minutes < 1 then "just now"
  else if minutes < 60 then toString minutes ++ " min ago"
  else if hours < 24 then toString hours ++ " h ago"
  else toString days ++ " d ago"

end EventConsole.Time
