import EventConsole.Natural
import EventConsole.Screen.Canvas

/-!
Contract: splitting a length into parts.

Gaps between parts come first, then least sizes, then fixed sizes, then shares
of the whole; what is left goes to the parts that have only a least size, or
stays empty behind the last part.

When fixed sizes do not fit, they give way so that neighbouring parts differ as
little as possible in sum. Of several equally good choices, later parts give
way first.

Owns: part sizes, the sharing rule, and rounding the edges to cells.
-/

namespace EventConsole.Screen.Layout

inductive Size where
  | fixed (cells : Nat)
  | share (percent : Nat)
  | atLeast (cells : Nat)
deriving DecidableEq, Repr

/-! ### Giving way -/

/-- A part while sizes are being reduced. -/
structure Part where
  size : Nat
  givesWay : Bool
deriving Repr

/-- Change of the difference to a neighbour when a part at the edge of a group
loses one cell. -/
def edgeEffect (neighbour : Option Nat) (edge : Nat) : Int :=
  match neighbour with
  | none => 0
  | some size => if size < edge then -1 else 1

/-- A run of neighbouring parts that could give way together. -/
structure Group where
  first : Nat
  width : Nat
  /-- Change of the sum of differences for one cell from each member. -/
  effect : Int
  /-- Cells each member can lose before the choice has to be made anew. -/
  room : Nat
deriving Repr

/-- How far an edge may fall before it meets its neighbour. -/
def edgeRoom (neighbour : Option Nat) (edge : Nat) : Nat :=
  match neighbour with
  | none => edge
  | some size => if size < edge then edge - size else edge

/-- The group of `width` parts from `first` on, if all of them can give way. -/
def groupAt? (parts : List Part) (first width : Nat) : Option Group :=
  let members := (parts.drop first).take width
  if members.length = width && members.all (fun part => part.givesWay && 0 < part.size) then
    match members.head?, members.getLast? with
    | some left, some right =>
        let before := if first = 0 then none else (parts[first - 1]?).map Part.size
        let after := (parts[first + width]?).map Part.size
        let least := members.foldl (fun least part => min least part.size) left.size
        some
          { first, width
            effect := edgeEffect before left.size + edgeEffect after right.size
            room := min least (min (edgeRoom before left.size) (edgeRoom after right.size)) }
    | _, _ => none
  else none

/-- All groups, those that start later first. -/
def groups (parts : List Part) : List Group :=
  (List.range parts.length).reverse.flatMap fun first =>
    (List.range parts.length).filterMap fun width => groupAt? parts first (width + 1)

/-- The group that brings the greatest gain for each cell it loses. -/
def bestGroup? (parts : List Part) : Option Group :=
  (groups parts).foldl (fun best group =>
    match best with
    | none => some group
    | some chosen =>
        if group.effect * chosen.width < chosen.effect * group.width then some group
        else best) none

def lower (parts : List Part) (group : Group) (loss : Nat) : List Part :=
  parts.mapIdx fun i part =>
    if group.first ≤ i ∧ i < group.first + group.width then
      { part with size := part.size - loss }
    else part

def scale (factor : Nat) (parts : List Part) : List Part :=
  parts.map fun part => { part with size := part.size * factor }

/-- Reduced sizes as multiples of a unit fraction of a cell. -/
structure Reduced where
  parts : List Part
  unitsPerCell : Nat
deriving Repr

/-- Takes `excess` cells from the parts. Only the last step divides a cell. -/
def giveWay : Nat → Nat → List Part → Reduced
  | 0, _, parts => ⟨parts, 1⟩
  | steps + 1, excess, parts =>
      if excess = 0 then ⟨parts, 1⟩
      else
        match bestGroup? parts with
        | none => ⟨parts, 1⟩
        | some group =>
            if group.room * group.width < excess then
              giveWay steps (excess - group.room * group.width) (lower parts group group.room)
            else ⟨lower (scale group.width parts) group excess, group.width⟩

/-! ### Splitting -/

/-- Hundredths of a cell, the precision to which edges are kept. -/
def precision : Nat := 100

/-- Least sizes in order, as far as there is room. -/
def leastSizes : Nat → List Size → List Nat
  | _, [] => []
  | room, .atLeast cells :: rest => min cells room :: leastSizes (room - cells) rest
  | room, _ :: rest => 0 :: leastSizes room rest

def fixedSize : Size → Nat
  | .fixed cells => cells
  | _ => 0

/-- Shares of `total` in order, in hundredths, as far as there is room. -/
def shareSizes (total : Nat) : Nat → List Size → List Nat
  | _, [] => []
  | room, .share percent :: rest =>
      let wanted := total * percent
      min wanted room :: shareSizes total (room - wanted) rest
  | room, _ :: rest => 0 :: shareSizes total room rest

/-- Gives what is left to the first part that has only a least size. -/
def growFirst (left : Nat) : List Size → List Nat → List Nat
  | .atLeast _ :: _, size :: sizes => (size + left) :: sizes
  | _ :: rest, size :: sizes => size :: growFirst left rest sizes
  | _, sizes => sizes

/-- A list of sizes with the number of units that make a cell. -/
structure Extents where
  sizes : List Nat
  unitsPerCell : Nat
deriving Repr

/-- Sizes of the parts of `room` cells, where shares refer to `total`. -/
def extents (total room : Nat) (sizes : List Size) : Extents :=
  let least := leastSizes room sizes
  let forFixed := room - sumOf least
  let fixed := sizes.map fixedSize
  if forFixed < sumOf fixed then
    let parts := (sizes.zip least).map fun (size, cells) =>
      match size with
      | .fixed wanted => Part.mk wanted true
      | _ => Part.mk cells false
    let excess := sumOf fixed - forFixed
    let reduced := giveWay (excess + 1) excess parts
    ⟨reduced.parts.map Part.size, reduced.unitsPerCell⟩
  else
    let forShares := (forFixed - sumOf fixed) * precision
    let shares := shareSizes total forShares sizes
    let known := (least.zip (fixed.zip shares)).map fun (a, b, c) => (a + b) * precision + c
    ⟨growFirst (forShares - sumOf shares) sizes known, precision⟩

def roundHalfUp (num den : Nat) : Nat := (2 * num + den) / (2 * den)

/-- The cell of an edge, rounded first to hundredths and then to cells. -/
def edgeCell (units unitsPerCell : Nat) : Nat :=
  roundHalfUp (roundHalfUp (units * precision) unitsPerCell) precision

/-- Start and length of every part, from an edge on. -/
def place (gap unitsPerCell : Nat) : Nat → List Nat → List (Nat × Nat)
  | _, [] => []
  | edge, size :: rest =>
      let start := edgeCell edge unitsPerCell
      (start, edgeCell (edge + size) unitsPerCell - start) ::
        place gap unitsPerCell (edge + size + gap) rest

/-- Splits `total` cells from `start` on, with `gap` cells between parts. -/
def splitWithGap (gap start total : Nat) (sizes : List Size) : List (Nat × Nat) :=
  let gaps := gap * (sizes.length - 1)
  if total < gaps then sizes.map fun _ => (start, 0)
  else
    let found := extents total (total - gaps) sizes
    place (gap * found.unitsPerCell) found.unitsPerCell (start * found.unitsPerCell) found.sizes

def split (start total : Nat) (sizes : List Size) : List (Nat × Nat) :=
  splitWithGap 0 start total sizes

/-- Parts of an area, one below the other. -/
def rows (area : Rect) (sizes : List Size) : List Rect :=
  (split area.y area.height sizes).map fun (y, height) => ⟨area.x, y, area.width, height⟩

/-- Parts of an area, side by side. -/
def columns (area : Rect) (sizes : List Size) : List Rect :=
  (split area.x area.width sizes).map fun (x, width) => ⟨x, area.y, width, area.height⟩

/-- The part with a number, or an empty area. -/
def part (parts : List Rect) (index : Nat) : Rect := (parts[index]?).getD Rect.empty

end EventConsole.Screen.Layout
