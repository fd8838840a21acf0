import EventConsole.Natural
import EventConsole.Random.Block

/-!
Contract: numbers drawn from a seeded source.

The source is one stream of words. A number below a bound is the upper part of a
product of word and bound; words whose lower part would make some numbers more
likely than others are passed over.
-/

namespace EventConsole.Random

structure Source where
  keyLow : Row
  keyHigh : Row
  /-- Number of the next block. -/
  next : UInt64
  /-- Words of the present block not yet drawn. -/
  pending : List UInt32
deriving DecidableEq, Repr

/-- A computation that draws from a source. -/
abbrev Draw := StateM Source

/-! ### Seeds -/

def seedStep (state : UInt64) : UInt64 := state * 6364136223846793005 + 11634580027462260723

/-- The key word of a seeding state. -/
def seedWord (state : UInt64) : UInt32 :=
  let mixed := (((state >>> 18) ^^^ state) >>> 27).toUInt32
  let turn := (state >>> 59).toUInt32
  (mixed >>> turn) ||| (mixed <<< ((32 - turn) % 32))

/-- Four key words, and the seeding state after them. -/
def seedRow (state : UInt64) : Row × UInt64 :=
  let s1 := seedStep state
  let s2 := seedStep s1
  let s3 := seedStep s2
  let s4 := seedStep s3
  (⟨seedWord s1, seedWord s2, seedWord s3, seedWord s4⟩, s4)

def Source.ofSeed (seed : UInt64) : Source :=
  let (low, state) := seedRow seed
  ⟨low, (seedRow state).1, 0, []⟩

/-! ### Words -/

def Source.word (source : Source) : UInt32 × Source :=
  match source.pending with
  | word :: rest => (word, { source with pending := rest })
  | [] =>
      let words := Block.output source.keyLow source.keyHigh source.next
      (words.headD 0, { source with next := source.next + 1, pending := words.tail })

def word32 : Draw Nat := fun source =>
  let (word, source) := source.word
  (word.toNat, source)

/-- Two words, the low one first. -/
def word64 : Draw Nat := do
  let low ← word32
  let high ← word32
  return high * powerOf 2 32 + low

/-! ### Bounded numbers -/

/-- The greatest lower part of a product that is not passed over. -/
def acceptedPart (bits bound : Nat) : Nat := bound * powerOf 2 (bits - 1 - bound.log2) - 1

/-- Words passed over at most; the next one is taken as it is. Half of all words or more are
accepted. -/
def drawLimit : Nat := 256

/-- Draws words until one is accepted. -/
def belowWithin (bits bound : Nat) (draw : Draw Nat) : Nat → Draw Nat
  | 0 => do return (← draw) * bound / powerOf 2 bits
  | more + 1 => do
      let product := (← draw) * bound
      if product % powerOf 2 bits ≤ acceptedPart bits bound then return product / powerOf 2 bits
      else belowWithin bits bound draw more

/-- A number below a bound from words of 32 bits. -/
def below32 (bound : Nat) : Draw Nat := belowWithin 32 bound word32 drawLimit

/-- A number below a bound from words of 64 bits. -/
def below64 (bound : Nat) : Draw Nat := belowWithin 64 bound word64 drawLimit

/-- One of some items. -/
def pick {α : Type} (first : α) (others : List α) : Draw α := do
  let index ← below64 (others.length + 1)
  return ((first :: others)[index]?).getD first

end EventConsole.Random
