import EventConsole.Natural
import EventConsole.Time.Calendar

/-!
Contract: points on the universal time scale, and their distance.

An instant is a count of seconds since 1970-01-01 and a fraction. A leap second
is written as second 60: it shares the count of the second before it, and its
fraction lies from one to two thousand million.

Owns: instants, stamps with their offset from universal time, order and
distance.

Does not own: the text of a stamp.
-/

namespace EventConsole.Time

def nanosPerSecond : Nat := 1000000000

def secondsPerDay : Int := 86400

structure Instant where
  seconds : Int
  nanos : Nat
deriving DecidableEq, Repr

/-- The clock of an instant at some offset from universal time. -/
structure Clock where
  date : Date
  hour : Nat
  minute : Nat
  second : Nat
deriving Repr

namespace Instant

def ofMillis (millis : Int) : Instant :=
  ⟨millis / 1000, (millis % 1000).toNat * 1000000⟩

/-- Order of instants: by seconds, then by fraction. -/
def before (a b : Instant) : Bool :=
  a.seconds < b.seconds || (a.seconds == b.seconds && a.nanos < b.nanos)

def isLeap (a : Instant) : Bool := nanosPerSecond ≤ a.nanos

def secondOfDay (a : Instant) : Int := a.seconds % secondsPerDay

/-- Nanoseconds from `b` to `a`. A leap second between the two clock times of day
counts as one more. -/
def since (a b : Instant) : Int :=
  let leap : Int :=
    if b.secondOfDay < a.secondOfDay && b.isLeap then 1
    else if a.secondOfDay < b.secondOfDay && a.isLeap then -1
    else 0
  (a.seconds - b.seconds + leap) * nanosPerSecond + ((a.nanos : Int) - b.nanos)

/-- Whole seconds from `b` to `a`, cut toward zero. -/
def secondsSince (a b : Instant) : Int := (a.since b).tdiv nanosPerSecond

/-- The instant some seconds earlier. A leap second counts as a second when it is
left. -/
def minusSeconds (a : Instant) (seconds : Nat) : Instant :=
  if seconds ≠ 0 ∧ a.isLeap then ⟨a.seconds + 1 - seconds, a.nanos - nanosPerSecond⟩
  else ⟨a.seconds - seconds, a.nanos⟩

/-- Clock reading at an offset in seconds; a leap second shows as second 60. -/
def clock (a : Instant) (offset : Int) : Clock :=
  let shifted := a.seconds + offset
  let ofDay := (shifted % secondsPerDay).toNat
  { date := Date.ofDays (shifted / secondsPerDay)
    hour := ofDay / 3600
    minute := ofDay / 60 % 60
    second := ofDay % 60 + (if a.isLeap then 1 else 0) }

/-- Nanoseconds since 1970-01-01, when they fit 64 signed bits. -/
def epochNanos? (a : Instant) : Option Int :=
  let total := a.seconds * nanosPerSecond + a.nanos
  if -(powerOf 2 63 : Int) ≤ total ∧ total < powerOf 2 63 then some total else none

end Instant

/-- An instant with the offset, in seconds, of the clock it was read from. -/
structure Stamp where
  instant : Instant
  offset : Int
deriving DecidableEq, Repr

def Stamp.clock (stamp : Stamp) : Clock := stamp.instant.clock stamp.offset

end EventConsole.Time
