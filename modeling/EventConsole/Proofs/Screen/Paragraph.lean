import EventConsole.Proofs.Screen.Drawing
import EventConsole.Proofs.Text.Decimal

/-!
Contract: where the characters of a line of text stand.

Most texts of the console are made of characters that take one cell each and join no
others. Such a line puts its characters side by side from the left edge of its area
until the area ends, so that every span has columns of its own.

Owns: characters of one cell, what a line of them shows at each cell, at which cells a
span of it is drawn, and the places that are just these cells.

Does not own: lines with wide characters or marks.
-/

namespace EventConsole

/-! ### Characters of one cell -/

namespace Text

/-- A character that takes one cell and joins no other of its kind. -/
structure IsSingle (c : Char) : Prop where
  joinsNothing : joinClass c = .other
  oneCell : textWidth [c] = 1

instance (c : Char) : Decidable (IsSingle c) :=
  decidable_of_iff (joinClass c = .other ∧ textWidth [c] = 1)
    ⟨fun single => ⟨single.1, single.2⟩, fun single => ⟨single.1, single.2⟩⟩

private theorem isSingle_of_visible {c : Char} (visible : 0x20 ≤ c.toNat ∧ c.toNat < 0x7F) :
    IsSingle c := by
  obtain ⟨low, high⟩ := visible
  have noReturn : ¬ c.toNat = 0xD := by omega
  have noFeed : ¬ c.toNat = 0xA := by omega
  have noControl : ¬ c.toNat < 0x20 := by omega
  have noBreak : c ≠ '\n' := by
    rintro rfl
    exact noFeed rfl
  have narrow : c.toNat ≤ 0xA0 := by omega
  constructor
  · simp [joinClass, noReturn, noFeed, noControl, high]
  · have added : addChar c .plain = (1, .plain) := by
      simp [addChar, Behind.plain, Behind.of, Behind.dropEmojiForm, noBreak, narrow]
    simp [textWidth, added]

/-- All characters of a text take one cell each. -/
def AllSingle (text : List Char) : Prop := ∀ c ∈ text, IsSingle c

instance (text : List Char) : Decidable (AllSingle text) := List.decidableBAll IsSingle text

theorem AllSingle.append {first second : List Char} (firstSingle : AllSingle first)
    (secondSingle : AllSingle second) : AllSingle (first ++ second) := by
  intro c isCharacter
  exact (List.mem_append.mp isCharacter).elim (firstSingle c) (secondSingle c)

theorem allSingle_toString (n : Nat) : AllSingle (toString n).toList := by
  intro c isCharacter
  rw [Nat.toString_eq_ofList_toDigits, String.toList_ofList] at isCharacter
  have bounds := (isDecimalDigit_iff c).mp (decimalDigit_of_mem isCharacter)
  exact isSingle_of_visible (by omega)

private theorem not_joins {c next : Char} (single : IsSingle c) (nextSingle : IsSingle next) :
    (JoinContext.start c).joins next = false := by
  have unlinked : (JoinContext.start c).conjunct ≠ .linked := by
    simp only [JoinContext.start, Conjunct.add, single.joinsNothing]
    split <;> simp
  simp [JoinContext.joins, JoinContext.start, single.joinsNothing, nextSingle.joinsNothing,
    isBreakAround] at unlinked ⊢
  intro linked
  exact absurd linked unlinked

private theorem unitsFrom_of_single {c : Char} {rest : List Char} (single : IsSingle c)
    (restSingle : AllSingle rest) :
    unitsFrom (JoinContext.start c) [c] rest = [c] :: rest.map fun next => [next] := by
  induction rest generalizing c with
  | nil => rfl
  | cons next rest inductionHypothesis =>
      obtain ⟨nextSingle, others⟩ := List.forall_mem_cons.mp restSingle
      rw [unitsFrom, not_joins single nextSingle, inductionHypothesis nextSingle others]
      rfl

theorem units_of_single {text : List Char} (single : AllSingle text) :
    units text = text.map fun c => [c] := by
  cases text with
  | nil => rfl
  | cons c rest =>
      obtain ⟨first, others⟩ := List.forall_mem_cons.mp single
      exact unitsFrom_of_single first others

end Text

namespace Screen

/-! ### Lines -/

/-- All characters of a line take one cell each. -/
def Line.IsSingle (line : Line) : Prop := ∀ span ∈ line.spans, Text.AllSingle span.text

/-- The characters of a span, each with the style of the span. -/
def Span.characters (span : Span) : List StyledUnit :=
  span.text.map fun c => ⟨[c], span.style⟩

theorem Span.units_of_single {span : Span} (single : Text.AllSingle span.text) :
    span.units = span.text.map fun c => [c] := by
  rw [units, Text.units_of_single single, List.filter_eq_self]
  intro unit isUnit
  obtain ⟨c, isCharacter, rfl⟩ := List.mem_map.mp isUnit
  have noBreak : c ≠ '\n' := by
    rintro rfl
    exact absurd (single '\n' isCharacter).joinsNothing (by decide)
  simp [noBreak]

private theorem Line.styledUnits_of_single {line : Line} (single : line.IsSingle) :
    line.styledUnits = line.spans.flatMap Span.characters := by
  rw [styledUnits, List.flatMap_def, List.flatMap_def]
  refine congrArg List.flatten (List.map_congr_left fun span isSpan => ?_)
  rw [Span.units_of_single (single span isSpan), List.map_map]
  rfl

private theorem oneCell_of_mem_characters {line : Line} (single : line.IsSingle)
    {item : StyledUnit} (isItem : item ∈ line.spans.flatMap Span.characters) :
    Text.textWidth item.unit = 1 := by
  obtain ⟨span, isSpan, isCharacter⟩ := List.mem_flatMap.mp isItem
  obtain ⟨c, inText, rfl⟩ := List.mem_map.mp isCharacter
  exact (single span isSpan c inText).oneCell

/-- What fits of units of one cell each is as many as there are cells. -/
theorem fitting_of_single {items : List StyledUnit}
    (single : ∀ item ∈ items, Text.textWidth item.unit = 1) (room used : Nat) :
    fitting room used items = items.take (room - used) := by
  induction items generalizing used with
  | nil => rw [fitting, List.take_nil]
  | cons item rest inductionHypothesis =>
      obtain ⟨oneCell, others⟩ := List.forall_mem_cons.mp single
      rw [fitting, oneCell]
      by_cases noRoom : room < 1
      · rw [if_pos noRoom, inductionHypothesis others, show room - used = 0 by omega,
          List.take_zero, List.take_zero]
      · rw [if_neg noRoom]
        by_cases full : room < used + 1
        · rw [if_pos full, show room - used = 0 by omega, List.take_zero]
        · rw [if_neg full, inductionHypothesis others, ← List.take_succ_cons]
          congr 1
          omega

/-! ### Cells -/

/-- A cell with a unit put over it. -/
def Cell.under (cell : Cell) (item : StyledUnit) : Cell :=
  { cell.styled item.style with symbol := item.unit }

/-- A cell with the unit that is put over it, if any is. -/
def Cell.underAny (cell : Cell) : Option StyledUnit → Cell
  | some item => cell.under item
  | none => cell

/-- The unit at a cell, of units of one cell each that begin at some cell. -/
def unitFrom? (x y : Nat) (items : List StyledUnit) (column row : Nat) : Option StyledUnit :=
  if row = y ∧ x ≤ column then items[column - x]? else none

theorem unitFrom?_cons (x y : Nat) (item : StyledUnit) (rest : List StyledUnit)
    (column row : Nat) :
    unitFrom? x y (item :: rest) column row =
      if x = column ∧ y = row then some item else unitFrom? (x + 1) y rest column row := by
  unfold unitFrom?
  by_cases here : x = column ∧ y = row
  · obtain ⟨rfl, rfl⟩ := here
    rw [if_pos ⟨rfl, Nat.le_refl x⟩, if_pos ⟨rfl, rfl⟩, Nat.sub_self, List.getElem?_cons_zero]
  · rw [if_neg here]
    by_cases behind : row = y ∧ x + 1 ≤ column
    · have next : column - x = column - (x + 1) + 1 := by omega
      rw [if_pos behind, if_pos (by omega), next, List.getElem?_cons_succ]
    · rw [if_neg behind, if_neg (by omega)]

namespace Canvas

private theorem cell?_putUnits {items : List StyledUnit}
    (single : ∀ item ∈ items, Text.textWidth item.unit = 1) (canvas : Canvas)
    (x y column row : Nat) :
    (canvas.putUnits x y items).cell? column row =
      (canvas.cell? column row).map fun cell => cell.underAny (unitFrom? x y items column row) := by
  induction items generalizing canvas x with
  | nil => simp [putUnits, unitFrom?, Cell.underAny]
  | cons item rest inductionHypothesis =>
      obtain ⟨oneCell, others⟩ := List.forall_mem_cons.mp single
      rw [putUnits, oneCell, if_neg Nat.one_ne_zero, inductionHypothesis others, put,
        cell?_modify, unitFrom?_cons]
      by_cases here : x = column ∧ y = row
      · -- What is put here is not put over again by the units behind.
        have passed : unitFrom? (x + 1) y rest column row = none := if_neg (by omega)
        rw [if_pos here, if_pos here, passed, Option.map_map]
        rfl
      · rw [if_neg here, if_neg here]

end Canvas

/-- The unit that a line puts at a cell of its area. -/
def Line.unitAt? (line : Line) (area : Rect) (column row : Nat) : Option StyledUnit :=
  if area.contains column row then (line.spans.flatMap Span.characters)[column - area.x]? else none

theorem contains_of_flat {area : Rect} (flat : area.height = 1) (column row : Nat) :
    area.contains column row = true ↔ row = area.y ∧ area.x ≤ column ∧ column < area.right := by
  simp only [Rect.contains, Rect.bottom, flat, Bool.and_eq_true, decide_eq_true_eq]
  omega

private theorem unitFrom?_take {area : Rect} (flat : area.height = 1) (line : Line)
    (column row : Nat) :
    unitFrom? area.x area.y ((line.spans.flatMap Span.characters).take area.width) column row =
      line.unitAt? area column row := by
  have contained := contains_of_flat flat column row
  rw [Rect.right] at contained
  unfold unitFrom? Line.unitAt?
  rw [List.getElem?_take]
  by_cases inside : area.contains column row = true
  · obtain ⟨onRow, behind, before⟩ := contained.mp inside
    rw [if_pos ⟨onRow, behind⟩, if_pos (by omega), if_pos inside]
  · rw [if_neg inside]
    split
    case isTrue behind => exact if_neg fun before => inside (contained.mpr (by omega))
    case isFalse => rfl

/-- What a line shows at each cell, on an area of one row. -/
theorem Canvas.cell?_drawParagraph {area : Rect} (flat : area.height = 1) {line : Line}
    (single : line.IsSingle) (canvas : Canvas) (column row : Nat) :
    (canvas.drawParagraph area [line]).cell? column row =
      (canvas.cell? column row).map fun cell => cell.underAny (line.unitAt? area column row) := by
  rw [drawParagraph, drawLines]
  by_cases empty : area.isEmpty = true
  · have nothing : line.unitAt? area column row = none := by
      refine if_neg fun inside => ?_
      obtain ⟨_, behind, before⟩ := (contains_of_flat flat column row).mp inside
      simp only [Rect.isEmpty, flat, Bool.or_eq_true, beq_iff_eq, Rect.right] at empty before
      omega
    rw [if_pos empty, nothing]
    exact Option.map_id'.symm
  · have oneCell (item : StyledUnit) (isItem : item ∈ line.spans.flatMap Span.characters) :
        Text.textWidth item.unit = 1 := oneCell_of_mem_characters single isItem
    have shown := fitting_of_single oneCell area.width 0
    rw [if_neg empty, flat]
    show (canvas.putUnits area.x area.y (fitting area.width 0 line.styledUnits)).cell? column row =
      _
    rw [Line.styledUnits_of_single single, shown, Nat.sub_zero,
      cell?_putUnits fun item isItem => oneCell item (List.mem_of_mem_take isItem),
      unitFrom?_take flat]

/-! ### Screens -/

namespace Canvas

/-- There is a cell for every place. -/
def IsFull (canvas : Canvas) : Prop := canvas.cells.size = canvas.width * canvas.height

theorem isFull_blank (width height : Nat) : (blank width height).IsFull := Array.size_replicate

private theorem IsFull.exists_cell? {canvas : Canvas} (isFull : canvas.IsFull) {area : Rect}
    (holds : canvas.Holds area) {column row : Nat} (inside : area.contains column row = true) :
    ∃ cell, canvas.cell? column row = some cell := by
  obtain ⟨right, bottom⟩ := holds
  simp only [Rect.contains, Bool.and_eq_true, decide_eq_true_eq] at inside
  have inRow : column < canvas.width := by omega
  have inColumn : row + 1 ≤ canvas.height := by omega
  have isPlace : row * canvas.width + column < canvas.cells.size := by
    have upToRow := Nat.mul_le_mul_right canvas.width inColumn
    rw [Nat.add_mul, Nat.one_mul, Nat.mul_comm canvas.height] at upToRow
    rw [isFull]
    omega
  rw [cell?, if_pos ⟨inRow, inColumn⟩]
  exact ⟨_, Array.getElem?_eq_getElem isPlace⟩

end Canvas

/-! ### Spans -/

/-- The line with another style for one of its spans. -/
def Line.restyle (line : Line) (index : Nat) (style : Style) : Line :=
  ⟨line.spans.modify index fun span => { span with style := style }⟩

/-- A character of a span is drawn at a cell: the cell shows it, in whatever style the
span has. -/
def Canvas.DrawsSpanAt (canvas : Canvas) (area : Rect) (line : Line) (index column row : Nat) :
    Prop :=
  ∃ span character cell, line.spans[index]? = some span ∧ character ∈ span.text ∧
    canvas.cell? column row = some cell ∧ ∀ style,
      (canvas.drawParagraph area [line.restyle index style]).cell? column row =
        some (cell.under ⟨[character], style⟩)

section Spans

variable {before after : List Span} {span : Span}

private theorem restyle_append (style : Style) :
    Line.restyle ⟨before ++ span :: after⟩ before.length style =
      ⟨before ++ { span with style := style } :: after⟩ := by
  unfold Line.restyle
  congr 1
  induction before with
  | nil => rfl
  | cons first rest inductionHypothesis => exact congrArg (first :: ·) inductionHypothesis

private theorem isSingle_restyle (single : Line.IsSingle ⟨before ++ span :: after⟩)
    (style : Style) : Line.IsSingle ⟨before ++ { span with style := style } :: after⟩ := by
  intro other isSpan
  rcases List.mem_append.mp isSpan with isBefore | isHere
  · exact single other (List.mem_append_left _ isBefore)
  · rcases List.mem_cons.mp isHere with rfl | isAfter
    · exact single span (List.mem_append_right _ List.mem_cons_self)
    · exact single other (List.mem_append_right _ (List.mem_cons_of_mem span isAfter))

/-- The columns that some spans take. -/
def columnsOf (spans : List Span) : Nat := (spans.flatMap Span.characters).length

/-- A cell of an area in the columns of a span behind some others. -/
structure OnSpan (area : Rect) (before : List Span) (span : Span) (column row : Nat) : Prop where
  inside : area.contains column row = true
  behind : columnsOf before ≤ column - area.x
  within : column - area.x < columnsOf before + span.text.length

/-- The units of a line: those before a span, those of the span, and those behind. -/
theorem getElem?_characters (style : Style) (place : Nat) :
    ((before ++ { span with style := style } :: after).flatMap Span.characters)[place]? =
      if place < columnsOf before then (before.flatMap Span.characters)[place]?
      else if place - columnsOf before < span.text.length then
        (span.text[place - columnsOf before]?).map fun c => ⟨[c], style⟩
      else (after.flatMap Span.characters)[place - columnsOf before - span.text.length]? := by
  rw [List.flatMap_append, List.flatMap_cons, List.getElem?_append, List.getElem?_append,
    Span.characters, List.length_map, List.getElem?_map]
  rfl

section OnSpan

variable {area : Rect} {column row : Nat}

private theorem OnSpan.exists_character (on : OnSpan area before span column row) :
    ∃ c, span.text[column - area.x - columnsOf before]? = some c := by
  obtain ⟨_, behind, within⟩ := on
  exact ⟨_, List.getElem?_eq_getElem (by omega)⟩

/-- On a span a line shows its characters in order, in the style of the span. -/
theorem OnSpan.unitAt? (on : OnSpan area before span column row) {c : Char}
    (isCharacter : span.text[column - area.x - columnsOf before]? = some c) (style : Style) :
    Line.unitAt? ⟨before ++ { span with style := style } :: after⟩ area column row =
      some ⟨[c], style⟩ := by
  obtain ⟨inside, behind, within⟩ := on
  rw [Line.unitAt?, if_pos inside, getElem?_characters, if_neg (by omega), if_pos (by omega),
    isCharacter, Option.map_some]

/-- Elsewhere the style of the span does not show. -/
theorem unitAt?_of_not_onSpan (off : ¬ OnSpan area before span column row)
    (style other : Style) :
    Line.unitAt? ⟨before ++ { span with style := style } :: after⟩ area column row =
      Line.unitAt? ⟨before ++ { span with style := other } :: after⟩ area column row := by
  unfold Line.unitAt?
  by_cases inside : area.contains column row = true
  · rw [if_pos inside, if_pos inside, getElem?_characters, getElem?_characters]
    by_cases early : column - area.x < columnsOf before
    · rw [if_pos early, if_pos early]
    · have late : ¬ column - area.x - columnsOf before < span.text.length := by
        intro within
        exact off ⟨inside, by omega, by omega⟩
      rw [if_neg early, if_neg early, if_neg late, if_neg late]
  · rw [if_neg inside, if_neg inside]

end OnSpan

section Drawn

variable {canvas : Canvas} {area : Rect} (isFull : canvas.IsFull) (holds : canvas.Holds area)
  (flat : area.height = 1) {line : Line} (single : line.IsSingle)
  (parts : line.spans = before ++ span :: after) {column row : Nat}

include isFull holds flat single parts

/-- On an area of one row of a screen, the characters of a span are drawn in the
columns of the span, as far as they are in the area. -/
theorem drawsSpanAt_iff :
    canvas.DrawsSpanAt area line before.length column row ↔
      OnSpan area before span column row := by
  obtain rfl : line = ⟨before ++ span :: after⟩ := congrArg Line.mk parts
  have atSpan : (before ++ span :: after)[before.length]? = some span := by
    rw [List.getElem?_append_right (Nat.le_refl _), Nat.sub_self, List.getElem?_cons_zero]
  have shown (style : Style) := canvas.cell?_drawParagraph flat (isSingle_restyle single style)
    column row
  constructor
  · rintro ⟨_, character, cell, _, _, isCell, follows⟩
    by_contra off
    -- A cell that follows two styles has two colours, since the line shows the same there.
    have black := follows (Style.fg .black)
    have cyan := follows (Style.fg .cyan)
    rw [restyle_append, shown] at black cyan
    rw [unitAt?_of_not_onSpan off _ (Style.fg .cyan), cyan] at black
    have colours := congrArg Cell.foreground (Option.some.inj black)
    contradiction
  · intro on
    obtain ⟨cell, isCell⟩ := isFull.exists_cell? holds on.inside
    obtain ⟨character, isCharacter⟩ := on.exists_character
    refine ⟨span, character, cell, atSpan, List.mem_of_getElem? isCharacter, isCell, ?_⟩
    intro style
    rw [restyle_append, shown, isCell, on.unitAt? isCharacter]
    rfl

/-- The characters of a span are drawn in order. -/
theorem symbol_drawParagraph (on : OnSpan area before span column row) {c : Char}
    (isCharacter : span.text[column - area.x - columnsOf before]? = some c) :
    ((canvas.drawParagraph area [line]).cell column row).symbol = [c] := by
  obtain ⟨cell, isCell⟩ := isFull.exists_cell? holds on.inside
  have unit : line.unitAt? area column row = some ⟨[c], span.style⟩ := by
    obtain rfl : line = ⟨before ++ span :: after⟩ := congrArg Line.mk parts
    exact on.unitAt? isCharacter span.style
  rw [Canvas.cell_eq, Canvas.cell?_drawParagraph flat single, isCell, unit]
  rfl

end Drawn

/-! ### Places of spans -/

/-- A text stands in the cells of a place, in order and as far as the place is wide. -/
def Canvas.Reads (canvas : Canvas) (place : Rect) (text : List Char) : Prop :=
  ∀ offset < place.width, ∃ c, text[offset]? = some c ∧
    (canvas.cell (place.x + offset) place.y).symbol = [c]

/-- A place on an area of one row that is as wide as a span behind some others, as far as
the area reaches. Where nothing of the span is left its column does not matter. -/
structure PlacesSpan (area : Rect) (before : List Span) (span : Span) (place : Rect) : Prop where
  top : place.y = area.y
  flat : place.height = 1
  width : place.width = min span.text.length (area.width - columnsOf before)
  left : 0 < place.width → place.x = area.x + columnsOf before

namespace PlacesSpan

variable {area place : Rect} (places : PlacesSpan area before span place)
  (flat : area.height = 1)

include places flat

theorem contains_iff_onSpan (column row : Nat) :
    place.contains column row = true ↔ OnSpan area before span column row := by
  have width := places.width
  rw [contains_of_flat places.flat, places.top, Rect.right]
  constructor
  · rintro ⟨onRow, fromLeft, toRight⟩
    have wide : 0 < place.width := by omega
    rw [places.left wide] at fromLeft toRight
    refine ⟨(contains_of_flat flat column row).mpr ⟨onRow, by omega, ?_⟩, by omega, by omega⟩
    rw [Rect.right]
    omega
  · rintro ⟨inside, behind, within⟩
    obtain ⟨onRow, fromLeft, toRight⟩ := (contains_of_flat flat column row).mp inside
    rw [Rect.right] at toRight
    have wide : 0 < place.width := by omega
    rw [places.left wide]
    exact ⟨onRow, by omega, by omega⟩

variable {canvas : Canvas} (isFull : canvas.IsFull) (holds : canvas.Holds area)
  {line : Line} (single : line.IsSingle) (parts : line.spans = before ++ span :: after)

include isFull holds single parts

/-- Such a place is where the span is drawn. -/
theorem contains_iff_drawsSpanAt (column row : Nat) :
    place.contains column row = true ↔
      canvas.DrawsSpanAt area line before.length column row :=
  (places.contains_iff_onSpan flat column row).trans
    (drawsSpanAt_iff isFull holds flat single parts).symm

theorem reads : (canvas.drawParagraph area [line]).Reads place span.text := by
  intro offset isOffset
  have wide : 0 < place.width := Nat.zero_lt_of_lt isOffset
  have inside : place.contains (place.x + offset) place.y = true := by
    refine (contains_of_flat places.flat _ _).mpr ⟨rfl, Nat.le_add_right _ _, ?_⟩
    rw [Rect.right]
    omega
  have on := (places.contains_iff_onSpan flat _ _).mp inside
  obtain ⟨c, isCharacter⟩ := on.exists_character
  refine ⟨c, ?_, symbol_drawParagraph isFull holds flat single parts on isCharacter⟩
  rw [places.left wide, Nat.sub_sub, Nat.add_sub_cancel_left] at isCharacter
  exact isCharacter

end PlacesSpan

end Spans

end Screen

end EventConsole
