/-!
Contract: blocks of pseudo-random words.

A block of sixteen words is a mix of fixed words, the eight words of a key and
the number of the block. Mixing takes twelve rounds of additions, exclusive ors
and rotations over columns and diagonals in turn.
-/

namespace EventConsole.Random

/-- Four words that are mixed side by side. -/
structure Row where
  first : UInt32
  second : UInt32
  third : UInt32
  fourth : UInt32
deriving DecidableEq, Repr

namespace Row

def map (change : UInt32 → UInt32) (row : Row) : Row :=
  ⟨change row.first, change row.second, change row.third, change row.fourth⟩

def zip (combine : UInt32 → UInt32 → UInt32) (a b : Row) : Row :=
  ⟨combine a.first b.first, combine a.second b.second, combine a.third b.third,
    combine a.fourth b.fourth⟩

/-- Moves every word one place to the front; the first goes to the end. -/
def rotate (row : Row) : Row := ⟨row.second, row.third, row.fourth, row.first⟩

def words (row : Row) : List UInt32 := [row.first, row.second, row.third, row.fourth]

end Row

def rotateLeft (word : UInt32) (bits : UInt32) : UInt32 :=
  (word <<< bits) ||| (word >>> (32 - bits))

structure Block where
  a : Row
  b : Row
  c : Row
  d : Row
deriving DecidableEq, Repr

namespace Block

def addRows (x y : Row) : Row := Row.zip (· + ·) x y

/-- Exclusive or of two rows, rotated. -/
def mixRows (x y : Row) (bits : UInt32) : Row :=
  Row.zip (fun v w => rotateLeft (v ^^^ w) bits) x y

/-- Mixes the four columns. -/
def mixColumns (block : Block) : Block :=
  let a := addRows block.a block.b
  let d := mixRows block.d a 16
  let c := addRows block.c d
  let b := mixRows block.b c 12
  let a := addRows a b
  let d := mixRows d a 8
  let c := addRows c d
  let b := mixRows b c 7
  ⟨a, b, c, d⟩

/-- Brings the diagonals into the columns. -/
def toDiagonals (block : Block) : Block :=
  ⟨block.a, block.b.rotate, block.c.rotate.rotate, block.d.rotate.rotate.rotate⟩

/-- Brings the diagonals back to their places. -/
def ofDiagonals (block : Block) : Block :=
  ⟨block.a, block.b.rotate.rotate.rotate, block.c.rotate.rotate, block.d.rotate⟩

def doubleRound (block : Block) : Block := block.mixColumns.toDiagonals.mixColumns.ofDiagonals

/-- Six double rounds. -/
def mixed (block : Block) : Block :=
  block.doubleRound.doubleRound.doubleRound.doubleRound.doubleRound.doubleRound

def add (x y : Block) : Block :=
  ⟨addRows x.a y.a, addRows x.b y.b, addRows x.c y.c, addRows x.d y.d⟩

def words (block : Block) : List UInt32 :=
  block.a.words ++ block.b.words ++ block.c.words ++ block.d.words

/-- The unmixed block with a number. -/
def seeded (keyLow keyHigh : Row) (number : UInt64) : Block where
  a := ⟨0x61707865, 0x3320646e, 0x79622d32, 0x6b206574⟩
  b := keyLow
  c := keyHigh
  d := ⟨number.toUInt32, (number >>> 32).toUInt32, 0, 0⟩

/-- The pseudo-random words of a block. -/
def output (keyLow keyHigh : Row) (number : UInt64) : List UInt32 :=
  let block := seeded keyLow keyHigh number
  (block.mixed.add block).words

end Block

end EventConsole.Random
