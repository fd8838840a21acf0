import EventConsole.Proofs.Decoding
import EventConsole.Proofs.Url.Address
import EventConsole.Proofs.Url.Mapping
import EventConsole.Proofs.Url.Punycode
import EventConsole.Url.Domain
import Mathlib.Data.Bool.AllAny

/-!
Contract: the ASCII form of a domain is its own ASCII form, as long as it can be read.

Mapping and composing leave the labels of a domain as they are, and a label beyond
ASCII is read back from its Punycode. Reading gives up on Punycode that is too long,
which writing does not look at: a domain with such a label is none when it is read
again.

Owns: the characters of domains, the labels that can be read, and texts that are
their own ASCII form.
-/

namespace EventConsole.Url

variable {text domain label : List Char} {shown : List (List Char)} {c : Char}

/-! ### Mapped texts -/

/-- The text of which the labels of a domain are taken. -/
def mappedText (text : List Char) : List Char := composed (text.flatMap domainChar)

private theorem mappedText_eq_self (settled : ∀ c ∈ text, IsSettled c)
    (ascii : ∀ c ∈ text, c.toNat < 128) : mappedText text = text := by
  have same : text.flatMap domainChar = text := by
    rw [List.flatMap_congr (g := fun c => [c]) settled, List.flatMap_singleton']
  rw [mappedText, same, composed_of_ascii ascii]

private theorem isSettled_of_mem_mappedText (member : c ∈ mappedText text) : IsSettled c := by
  refine forall_mem_composed (fun _ split => isSettled_of_splitChar? split)
    (fun _ _ joined => isSettled_of_joinChars? joined) (fun d inMapped => ?_) c member
  obtain ⟨source, -, inSource⟩ := List.mem_flatMap.mp inMapped
  exact isSettled_of_mem_domainChar inSource

/-- The labels of a mapped text are what mapping and composing make of them. -/
theorem isMapped_of_mem_labels (allowed : ∀ c ∈ mappedText text, allowedInDomain c = true)
    (isLabel : label ∈ labels (mappedText text)) : isMapped label = true := by
  have settled : composed label = label :=
    composed_of_mem_splitOn (composed_composed _) isLabel
  rw [isMapped, Bool.and_eq_true, List.all_eq_true, settled]
  refine ⟨fun c member => ?_, beq_self_eq_true label⟩
  obtain ⟨inText, noStop⟩ := Text.mem_of_mem_splitOn isLabel member
  have isSettled : domainChar c = [c] := isSettled_of_mem_mappedText inText
  simp [noStop, allowed c inText, isSettled]

private theorem inRanges_of_mem {ranges : List (Nat × Nat)} {range : Nat × Nat} {code : Nat}
    (member : range ∈ ranges) (inside : code ≤ range.2) (after : ∀ range ∈ ranges, range.1 ≤ code) :
    Text.inRanges ranges code = true := by
  induction ranges with
  | nil => cases member
  | cons first rest ih =>
      obtain ⟨afterFirst, afterRest⟩ := List.forall_mem_cons.mp after
      rw [Text.inRanges, if_neg (Nat.not_lt.mpr afterFirst)]
      split
      case isTrue => rfl
      case isFalse beyond =>
        rcases List.mem_cons.mp member with rfl | inRest
        · exact absurd inside beyond
        · exact ih inRest afterRest

/-- The last of the banned ranges. -/
def lastBanned : Nat × Nat := (0x3347A, 0x10FFFF)

private theorem lastBanned_spec : lastBanned ∈ bannedInDomain ∧
    ∀ range ∈ bannedInDomain, range.1 ≤ lastBanned.1 := by
  decide +kernel

/-- The code points that a domain holds are small enough for Punycode. -/
theorem lt_codeBound_of_allowed (allowed : allowedInDomain c = true) :
    c.toNat < Punycode.codeBound := by
  have bounds : 128 ≤ lastBanned.1 ∧ lastBanned.1 ≤ Punycode.codeBound := by decide
  by_contra beyond
  have large : Punycode.codeBound ≤ c.toNat := Nat.not_lt.mp beyond
  have banned : Text.inRanges bannedInDomain c.toNat = true := by
    refine inRanges_of_mem lastBanned_spec.1 ?_ fun range isRange => ?_
    · have valid := Text.Utf8.toNat_bounds c
      have last : lastBanned.2 = 0x10FFFF := rfl
      omega
    · exact Nat.le_trans (lastBanned_spec.2 range isRange) (Nat.le_trans bounds.2 large)
  rw [allowedInDomain, if_neg (by omega), banned] at allowed
  cases allowed

/-! ### The characters of the ASCII form -/

/-- A character that stands in the ASCII form of a domain, or separates labels there. -/
def IsDomainAscii (c : Char) : Prop := c.toNat < 128 ∧ forbiddenInDomain c = false

instance (c : Char) : Decidable (IsDomainAscii c) := inferInstanceAs (Decidable (_ ∧ _))

private theorem isDomainAscii_of_allowed (allowed : allowedInDomain c = true)
    (basic : Punycode.isBasic c = true) : IsDomainAscii c := by
  have ascii : c.toNat < 128 := by simpa [Punycode.isBasic] using basic
  rw [allowedInDomain, if_pos ascii] at allowed
  exact ⟨ascii, by simpa using allowed⟩

/-- The characters of which Punycode is made. -/
def encodingChars : List Char := "-abcdefghijklmnopqrstuvwxyz0123456789".toList

theorem encodingChars_spec : ∀ c ∈ encodingChars,
    IsDomainAscii c ∧ domainChar c = [c] ∧ c ≠ '.' ∧ Punycode.isBasic c = true :=
  List.all_iff_forall_prop.mp (by decide)

theorem mem_asciiLabel (member : c ∈ asciiLabel label) :
    (c ∈ label ∧ Punycode.isBasic c = true) ∨ c ∈ encodingChars := by
  have digits : ∀ value : Fin 36, Punycode.digit value.val ∈ encodingChars := by decide
  have claim : ∀ d ∈ ['x', 'n', '-', '-'], d ∈ encodingChars :=
    List.all_iff_forall_prop.mp (by decide)
  rw [asciiLabel] at member
  split at member
  case isTrue basic => exact .inl ⟨member, List.all_eq_true.mp basic c member⟩
  case isFalse =>
    change c ∈ ['x', 'n', '-', '-'] ++ Punycode.encode label at member
    rcases List.mem_append.mp member with inClaim | inText
    · exact .inr (claim c inClaim)
    · rcases Punycode.mem_encode inText with isChar | rfl | ⟨value, small, rfl⟩
      · exact .inl isChar
      · exact .inr (by decide)
      · exact .inr (digits ⟨value, small⟩)

private theorem all_isBasic_asciiLabel (label : List Char) :
    (asciiLabel label).all Punycode.isBasic = true := by
  refine List.all_eq_true.mpr fun c member => ?_
  rcases mem_asciiLabel member with ⟨-, basic⟩ | inEncoding
  · exact basic
  · exact (encodingChars_spec c inEncoding).2.2.2

private theorem asciiLabel_asciiLabel (label : List Char) :
    asciiLabel (asciiLabel label) = asciiLabel label := by
  rw [asciiLabel, if_pos (all_isBasic_asciiLabel label)]

/-! ### Texts with an ASCII form -/

/-- What a text satisfies that has an ASCII form. -/
structure IsDomain (text domain : List Char) (shown : List (List Char)) : Prop where
  allowed : ∀ c ∈ mappedText text, allowedInDomain c = true
  shows : (labels (mappedText text)).mapM shownLabel? = some shown
  fits : labelsFit shown = true
  ascii : ['.'].intercalate ((labels (mappedText text)).map asciiLabel) = domain

theorem domainAscii?_eq_some_iff :
    domainAscii? text = some domain ↔ ∃ shown, IsDomain text domain shown := by
  constructor
  · intro ascii
    unfold domainAscii? at ascii
    dsimp only at ascii
    split at ascii
    case isFalse => cases ascii
    case isTrue allowed =>
      split at ascii
      case h_1 => cases ascii
      case h_2 shown shows =>
        split at ascii
        case isFalse => cases ascii
        case isTrue fits =>
          exact ⟨shown, List.all_eq_true.mp allowed, shows, fits, Option.some.inj ascii⟩
  · rintro ⟨shown, allowed, shows, fits, ascii⟩
    unfold mappedText at allowed shows ascii
    unfold domainAscii?
    dsimp only
    rw [if_pos (List.all_eq_true.mpr allowed), shows, ← ascii]
    exact if_pos fits

/-- The ASCII form of a domain holds nothing that no domain holds, and mapping leaves it as it
is. -/
theorem IsDomain.isDomainAscii_of_mem (isDomain : IsDomain text domain shown)
    (member : c ∈ domain) : IsDomainAscii c ∧ domainChar c = [c] := by
  rw [← isDomain.ascii] at member
  rcases Text.mem_intercalate member with rfl | ⟨_, isAscii, inLabel⟩
  · exact ⟨⟨by decide, by decide⟩, by decide⟩
  · obtain ⟨label, isLabel, rfl⟩ := List.mem_map.mp isAscii
    rcases mem_asciiLabel inLabel with ⟨inSource, basic⟩ | inEncoding
    · have inMapped := (Text.mem_of_mem_splitOn isLabel inSource).1
      exact ⟨isDomainAscii_of_allowed (isDomain.allowed c inMapped) basic,
        isSettled_of_mem_mappedText inMapped⟩
    · obtain ⟨plain, settled, -⟩ := encodingChars_spec c inEncoding
      exact ⟨plain, settled⟩

private theorem IsDomain.mappedText_domain (isDomain : IsDomain text domain shown) :
    mappedText domain = domain :=
  mappedText_eq_self (fun _ member => (isDomain.isDomainAscii_of_mem member).2)
    fun _ member => (isDomain.isDomainAscii_of_mem member).1.1

theorem IsDomain.labels_domain (isDomain : IsDomain text domain shown) :
    labels domain = (labels (mappedText text)).map asciiLabel := by
  rw [← isDomain.ascii, labels, List.splitOn_intercalate '.' _ (by simp [labels])]
  intro _ isAscii member
  obtain ⟨label, isLabel, rfl⟩ := List.mem_map.mp isAscii
  rcases mem_asciiLabel member with ⟨inLabel, -⟩ | inEncoding
  · exact (Text.mem_of_mem_splitOn isLabel inLabel).2 rfl
  · exact (encodingChars_spec _ inEncoding).2.2.1 rfl

/-! ### Labels in ASCII -/

/-- A label in Punycode that is not too long to be read. -/
def IsReadable (label : List Char) : Prop :=
  ['x', 'n', '-', '-'] <+: label → label.length ≤ 4 + encodedTextLimit

instance (label : List Char) : Decidable (IsReadable label) :=
  inferInstanceAs (Decidable (_ → _))

private theorem isReadable_of_shownLabel? (shows : (shownLabel? label).isSome = true) :
    IsReadable label := by
  rintro ⟨rest, rfl⟩
  change (decodeLabel? rest).isSome = true at shows
  rw [decodeLabel?] at shows
  split at shows
  case isTrue short =>
    change ('x' :: 'n' :: '-' :: '-' :: rest).length ≤ _
    simp only [List.length_cons]
    omega
  case isFalse => cases shows

/-- A label beyond ASCII shows as itself. -/
theorem shownLabel?_of_beyond {shown : List Char} (beyond : label.all Punycode.isBasic = false)
    (shows : shownLabel? label = some shown) : shown = label := by
  unfold shownLabel? at shows
  split at shows
  case h_1 rest =>
    exfalso
    rw [decodeLabel?] at shows
    split at shows
    case isFalse => cases shows
    case isTrue =>
      split at shows
      case h_1 => cases shows
      case h_2 decoded isDecoded =>
        have basic := List.all_eq_true.mpr (Punycode.isBasic_of_decode? isDecoded)
        have claim : ['x', 'n', '-', '-'].all Punycode.isBasic = true := by decide
        have whole : ('x' :: 'n' :: '-' :: '-' :: rest).all Punycode.isBasic = true := by
          change (['x', 'n', '-', '-'] ++ rest).all Punycode.isBasic = true
          rw [List.all_append, claim, basic]
          rfl
        rw [beyond] at whole
        cases whole
  case h_2 => exact (Option.some.inj shows).symm

/-- In ASCII a label shows what it showed before, as long as it can be read. -/
theorem shownLabel?_asciiLabel {shown : List Char} (mapped : isMapped label = true)
    (shows : shownLabel? label = some shown) (fits : labelFits shown = true)
    (readable : IsReadable (asciiLabel label)) : shownLabel? (asciiLabel label) = some shown := by
  cases basic : label.all Punycode.isBasic with
  | true => rw [asciiLabel, if_pos basic, shows]
  | false =>
      obtain rfl := shownLabel?_of_beyond basic shows
      have ascii : asciiLabel shown = ['x', 'n', '-', '-'] ++ Punycode.encode shown := by
        rw [asciiLabel, basic]
        rfl
      have short : shown.length ≤ Punycode.readableLength := by
        simp only [labelFits, basic, Bool.false_or, Bool.and_eq_true, decide_eq_true_eq] at fits
        exact fits.1.1
      have below : ∀ c ∈ shown, c.toNat < Punycode.codeBound := by
        intro c member
        rw [isMapped, Bool.and_eq_true, List.all_eq_true] at mapped
        have allowed := mapped.1 c member
        simp only [Bool.and_eq_true] at allowed
        exact lt_codeBound_of_allowed allowed.1.2
      have fitsReader : (Punycode.encode shown).length ≤ encodedTextLimit := by
        have whole := readable ⟨_, ascii.symm⟩
        rw [ascii, List.length_append] at whole
        exact Nat.le_of_add_le_add_left whole
      have beyond : shown.any (fun c => !Punycode.isBasic c) = true := by
        rw [← List.not_all_eq_any_not, basic]
        rfl
      rw [ascii]
      change decodeLabel? (Punycode.encode shown) = some shown
      rw [decodeLabel?, if_pos fitsReader, Punycode.decode?_encode below short]
      dsimp only
      rw [beyond, mapped]
      rfl

/-! ### The ASCII form of an ASCII form -/

/-- The ASCII form of a domain is its own ASCII form, as long as its labels can be read. -/
theorem domainAscii?_eq_self_iff (ascii : domainAscii? text = some domain) :
    domainAscii? domain = some domain ↔ ∀ label ∈ labels domain, IsReadable label := by
  obtain ⟨shown, isDomain⟩ := domainAscii?_eq_some_iff.mp ascii
  have mapped := isDomain.mappedText_domain
  constructor
  · intro again
    obtain ⟨_, isAscii⟩ := domainAscii?_eq_some_iff.mp again
    have shows := isAscii.shows
    rw [mapped] at shows
    exact fun label isLabel => isReadable_of_shownLabel?
      (isSome_mapM_iff.mp (by rw [shows]; rfl) label isLabel)
  · intro readable
    have each : ∀ label ∈ labels (mappedText text),
        shownLabel? (asciiLabel label) = shownLabel? label := by
      intro label isLabel
      have isShown : shownLabel? label ∈ shown.map some := by
        rw [← mapM_eq_some_iff.mp isDomain.shows]
        exact List.mem_map_of_mem isLabel
      obtain ⟨visible, inShown, same⟩ := List.mem_map.mp isShown
      have fits := (Bool.and_eq_true_iff.mp isDomain.fits).1
      rw [← same]
      refine shownLabel?_asciiLabel (isMapped_of_mem_labels isDomain.allowed isLabel) same.symm
        (List.all_eq_true.mp fits visible inShown) (readable _ ?_)
      rw [isDomain.labels_domain]
      exact List.mem_map_of_mem isLabel
    refine domainAscii?_eq_some_iff.mpr ⟨shown, ?_, ?_, isDomain.fits, ?_⟩
    · rw [mapped]
      intro c member
      obtain ⟨ascii, plain⟩ := (isDomain.isDomainAscii_of_mem member).1
      rw [allowedInDomain, if_pos ascii, plain]
      rfl
    · rw [mapped, isDomain.labels_domain, mapM_eq_some_iff, List.map_map,
        ← mapM_eq_some_iff.mp isDomain.shows]
      exact List.map_congr_left each
    · have twice : asciiLabel ∘ asciiLabel = asciiLabel := funext asciiLabel_asciiLabel
      rw [mapped, isDomain.labels_domain, List.map_map, twice, isDomain.ascii]

/-! ### Digits and full stops -/

/-- What a character satisfies that no rule for domains changes, refuses or looks at. -/
structure IsInert (c : Char) : Prop where
  plain : IsDomainAscii c
  settled : domainChar c = [c]
  unmarked : isMark c = false
  noJoiner : ¬(c = joiner ∨ c = nonJoiner)
  rightward : isLeftward c = false
  noClaim : c ≠ 'x'

theorem isInert_of_digit (digit : c = '.' ∨ c.isDigit = true) : IsInert c := by
  have all : ∀ c : Char, c.toNat < 58 → (c = '.' ∨ c.isDigit = true) →
      IsDomainAscii c ∧ domainChar c = [c] ∧ isMark c = false ∧
        ¬(c = joiner ∨ c = nonJoiner) ∧ isLeftward c = false ∧ c ≠ 'x' :=
    Text.forall_char_lt (by decide)
  have small : c.toNat < 58 := by
    rcases digit with rfl | isDigit
    · decide
    · have bounds : 48 ≤ c.toNat ∧ c.toNat ≤ 57 := Char.isDigit_iff_toNat.mp isDigit
      omega
  obtain ⟨plain, settled, unmarked, noJoiner, rightward, noClaim⟩ := all c small digit
  exact ⟨plain, settled, unmarked, noJoiner, rightward, noClaim⟩

private theorem joinersFitAfter_of_isInert (inert : ∀ c ∈ label, IsInert c) (before : List Char) :
    joinersFitAfter before label = true := by
  induction label generalizing before with
  | nil => rfl
  | cons c rest ih =>
      obtain ⟨inertChar, inertRest⟩ := List.forall_mem_cons.mp inert
      simp only [joinersFitAfter, if_neg inertChar.noJoiner, Bool.true_and]
      exact ih inertRest _

private theorem labelFits_of_isInert (inert : ∀ c ∈ label, IsInert c) : labelFits label = true := by
  have basic : label.all Punycode.isBasic = true :=
    List.all_eq_true.mpr fun c member => decide_eq_true (inert c member).plain.1
  have noMark : beginsWithMark label = false := by
    cases label with
    | nil => rfl
    | cons c rest => exact (inert c List.mem_cons_self).unmarked
  rw [labelFits, basic, noMark, joinersFit, joinersFitAfter_of_isInert inert]
  rfl

private theorem shownLabel?_of_isInert (inert : ∀ c ∈ label, IsInert c) :
    shownLabel? label = some label := by
  unfold shownLabel?
  split
  case h_1 => exact absurd rfl (inert 'x' List.mem_cons_self).noClaim
  case h_2 => rfl

/-- A text of inert characters is its own ASCII form. -/
theorem domainAscii?_of_isInert (inert : ∀ c ∈ text, IsInert c) :
    domainAscii? text = some text := by
  have mapped : mappedText text = text :=
    mappedText_eq_self (fun c member => (inert c member).settled)
      fun c member => (inert c member).plain.1
  have inLabels : ∀ label ∈ labels text, ∀ c ∈ label, IsInert c :=
    fun label isLabel c member => inert c (Text.mem_of_mem_splitOn isLabel member).1
  have sameLabels : (labels text).map asciiLabel = labels text := by
    refine (List.map_congr_left fun label isLabel => ?_).trans (List.map_id _)
    have basic : label.all Punycode.isBasic = true :=
      List.all_eq_true.mpr fun c member => decide_eq_true (inLabels label isLabel c member).plain.1
    rw [asciiLabel, if_pos basic, id]
  refine domainAscii?_eq_some_iff.mpr ⟨labels text, ?_, ?_, ?_, ?_⟩
  · rw [mapped]
    intro c member
    obtain ⟨ascii, plain⟩ := (inert c member).plain
    rw [allowedInDomain, if_pos ascii, plain]
    rfl
  · rw [mapped, mapM_eq_some_iff]
    exact List.map_congr_left fun label isLabel => shownLabel?_of_isInert (inLabels label isLabel)
  · have fits : (labels text).all labelFits = true :=
      List.all_eq_true.mpr fun label isLabel => labelFits_of_isInert (inLabels label isLabel)
    have rightward : (labels text).any (fun label => label.any isLeftward) = false := by
      refine List.any_eq_false.mpr fun label isLabel => ?_
      rw [Bool.not_eq_true, List.any_eq_false]
      exact fun c member => by simp [(inLabels label isLabel c member).rightward]
    rw [labelsFit, fits, directionsFit, rightward]
    rfl
  · rw [mapped, sameLabels, labels, List.intercalate_splitOn]

end EventConsole.Url
