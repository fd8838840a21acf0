import EventConsole.Proofs.Decoding
import EventConsole.Text.Utf8

/-!
Contract: the bytes of a text read back as that text.

Owns: reading the bytes of one character in front of any others, and from it the
replacing decoder on every encoded text; and that the strict decoder accepts
nothing but encoded texts.
-/

namespace EventConsole.Text.Utf8

/-! ### One byte -/

theorem toNat_ofNat_byte {n : Nat} (small : n < 256) : (UInt8.ofNat n).toNat = n := by
  rw [UInt8.toNat_ofNat']
  exact Nat.mod_eq_of_lt small

private theorem lead?_one {first : Nat} (below : first < 0x80) :
    lead? first = some ⟨0, 0, 0, first⟩ :=
  if_pos below

private theorem lead?_two {first : Nat} (above : 0xC2 ≤ first) (below : first < 0xE0) :
    lead? first = some ⟨1, 0x80, 0xBF, first - 0xC0⟩ := by
  unfold lead?
  rw [if_neg (by omega), if_neg (by omega), if_pos below]

/-- The second byte keeps surrogates and longer forms out at the two ends. -/
theorem lead?_three {first : Nat} (above : 0xE0 ≤ first) (below : first < 0xF0) :
    lead? first =
      some ⟨2, if first = 0xE0 then 0xA0 else 0x80, if first = 0xED then 0x9F else 0xBF,
        first - 0xE0⟩ := by
  unfold lead?
  rw [if_neg (by omega), if_neg (by omega), if_neg (by omega)]
  by_cases isLow : first = 0xE0
  · subst isLow
    rfl
  · by_cases isHigh : first = 0xED
    · subst isHigh
      rfl
    · simp only [if_neg isLow, if_neg isHigh, if_pos below]

private theorem lead?_four {first : Nat} (above : 0xF0 ≤ first) (below : first ≤ 0xF4) :
    lead? first =
      some ⟨3, if first = 0xF0 then 0x90 else 0x80, if first = 0xF4 then 0x8F else 0xBF,
        first - 0xF0⟩ := by
  unfold lead?
  rw [if_neg (by omega), if_neg (by omega), if_neg (by omega), if_neg (by omega),
    if_neg (by omega), if_neg (by omega)]
  by_cases isLow : first = 0xF0
  · subst isLow
    rfl
  · by_cases isHigh : first = 0xF4
    · subst isHigh
      rfl
    · simp only [if_neg isLow, if_neg isHigh, if_pos (show first < 0xF4 by omega)]

theorem read_lead {first following low high bits : Nat} {rest : List UInt8} (small : first < 256)
    (leads : lead? first = some ⟨following + 1, low, high, bits⟩) :
    read .start (UInt8.ofNat first :: rest) =
      read (.inside bits (following + 1) low high) rest := by
  simp only [read, step, fromStart, toNat_ofNat_byte small, leads, List.nil_append]

theorem read_following {bits following low high byte : Nat} {rest : List UInt8}
    (small : byte < 256) (above : low ≤ byte) (below : byte ≤ high) :
    read (.inside bits (following + 2) low high) (UInt8.ofNat byte :: rest) =
      read (.inside (bits * 64 + byte % 64) (following + 1) 0x80 0xBF) rest := by
  simp only [read, step, toNat_ofNat_byte small, if_pos (And.intro above below)]
  rw [if_neg (by omega)]
  simp

theorem read_last {bits low high byte : Nat} {rest : List UInt8} (small : byte < 256)
    (above : low ≤ byte) (below : byte ≤ high) :
    read (.inside bits 1 low high) (UInt8.ofNat byte :: rest) =
      some (Char.ofNat (bits * 64 + byte % 64)) :: read .start rest := by
  simp only [read, step, toNat_ofNat_byte small, if_pos (And.intro above below), if_true,
    List.cons_append, List.nil_append]

/-! ### One character -/

/-- A character is no surrogate and not above U+10FFFF. -/
theorem toNat_bounds (c : Char) : c.toNat < 0xD800 ∨ 0xDFFF < c.toNat ∧ c.toNat < 0x110000 :=
  c.valid

theorem ofNat_of_eq (c : Char) {n : Nat} (same : n = c.toNat) : Char.ofNat n = c := by
  rw [same, Char.ofNat_toNat]

private theorem read_encodeChar (c : Char) (rest : List UInt8) :
    read .start (encodeChar c ++ rest) = some c :: read .start rest := by
  have bounds := toNat_bounds c
  unfold encodeChar
  by_cases one : c.toNat < 0x80
  · simp only [if_pos one, List.cons_append, List.nil_append, read, step, fromStart,
      toNat_ofNat_byte (show c.toNat < 256 by omega), lead?_one one, Char.ofNat_toNat]
  · by_cases two : c.toNat < 0x800
    · simp only [if_neg one, if_pos two, List.cons_append, List.nil_append]
      rw [read_lead (by omega) (lead?_two (by omega) (by omega)),
        read_last (by omega) (by omega) (by omega), ofNat_of_eq c (by omega)]
    · by_cases three : c.toNat < 0x10000
      · simp only [if_neg one, if_neg two, if_pos three, List.cons_append, List.nil_append]
        rw [read_lead (by omega) (lead?_three (by omega) (by omega)),
          read_following (by omega) (by split <;> omega) (by split <;> omega),
          read_last (by omega) (by omega) (by omega), ofNat_of_eq c (by omega)]
      · simp only [if_neg one, if_neg two, if_neg three, List.cons_append, List.nil_append]
        rw [read_lead (by omega) (lead?_four (by omega) (by omega)),
          read_following (by omega) (by split <;> omega) (by split <;> omega),
          read_following (by omega) (by omega) (by omega),
          read_last (by omega) (by omega) (by omega), ofNat_of_eq c (by omega)]

/-! ### Texts -/

theorem read_encode (text : List Char) : read .start (encode text) = text.map some := by
  induction text with
  | nil => rfl
  | cons c rest inductionHypothesis =>
      change read .start (encodeChar c ++ encode rest) = some c :: rest.map some
      rw [read_encodeChar, inductionHypothesis]

theorem decodeLossy_encode (text : List Char) : decodeLossy (encode text) = text := by
  simp [decodeLossy, read_encode, Function.comp_def]

/-! ### Strict reading -/

theorem toNat_ofNat_char {n : Nat} (valid : n < 0xD800 ∨ 0xDFFF < n ∧ n < 0x110000) :
    (Char.ofNat n).toNat = n := by
  unfold Char.ofNat
  rw [dif_pos valid]
  rfl

private theorem lead?_none {first : Nat} (outside : 0x80 ≤ first ∧ first < 0xC2 ∨ 0xF4 < first) :
    lead? first = none := by
  unfold lead?
  rcases outside with ⟨above, below⟩ | above
  · rw [if_neg (by omega), if_pos below]
  · rw [if_neg (by omega), if_neg (by omega), if_neg (by omega), if_neg (by omega),
      if_neg (by omega), if_neg (by omega), if_neg (by omega), if_neg (by omega),
      if_neg (by omega)]

/-- Inside a character whose reading succeeds stands a byte in range. -/
theorem exists_of_read_inside {bits following low high : Nat} {bytes : List UInt8}
    {text : List Char}
    (isRead : read (.inside bits (following + 1) low high) bytes = text.map some) :
    ∃ byte rest, bytes = byte :: rest ∧ low ≤ byte.toNat ∧ byte.toNat ≤ high ∧
      if following = 0 then
        some (Char.ofNat (bits * 64 + byte.toNat % 64)) :: read .start rest = text.map some
      else
        read (.inside (bits * 64 + byte.toNat % 64) following 0x80 0xBF) rest = text.map some := by
  cases bytes with
  | nil => cases text <;> simp [read] at isRead
  | cons byte rest =>
      by_cases inRange : low ≤ byte.toNat ∧ byte.toNat ≤ high
      · refine ⟨byte, rest, rfl, inRange.1, inRange.2, ?_⟩
        simp only [read, step, if_pos inRange] at isRead
        by_cases last : following = 0
        · subst last
          simpa using isRead
        · rw [if_neg (by omega)] at isRead
          simpa [last] using isRead
      · simp only [read, step, if_neg inRange] at isRead
        cases text <;> simp at isRead

theorem ofNat_of_toNat_byte (byte : UInt8) {n : Nat} (same : n = byte.toNat) :
    UInt8.ofNat n = byte := by
  rw [same, UInt8.ofNat_toNat]

theorem read_start_of_lead {byte : UInt8} {following low high bits : Nat} {rest : List UInt8}
    (leads : lead? byte.toNat = some ⟨following + 1, low, high, bits⟩) :
    read .start (byte :: rest) = read (.inside bits (following + 1) low high) rest := by
  simp only [read, step, fromStart, leads, List.nil_append]

/-- Some bytes begin with those of the first character of a text, and the others
read as the rest of it. -/
def Splits (bytes : List UInt8) (text : List Char) : Prop :=
  ∃ c rest more, bytes = encodeChar c ++ rest ∧ text = c :: more ∧
    read .start rest = more.map some

theorem splits_of_read {c : Char} {bytes rest : List UInt8} {text : List Char}
    (begins : bytes = encodeChar c ++ rest)
    (isRead : some c :: read .start rest = text.map some) : Splits bytes text := by
  cases text with
  | nil => contradiction
  | cons c' more =>
      obtain ⟨same, isRest⟩ := List.cons.inj isRead
      obtain rfl := Option.some.inj same
      exact ⟨c, rest, more, begins, rfl, isRest⟩

section Splits

variable {first : UInt8} {rest : List UInt8} {text : List Char}

private theorem splits_one (below : first.toNat < 0x80)
    (isRead : read .start (first :: rest) = text.map some) : Splits (first :: rest) text := by
  simp only [read, step, fromStart, lead?_one below, List.cons_append, List.nil_append] at isRead
  refine splits_of_read ?_ isRead
  rw [encodeChar, toNat_ofNat_char (by omega), if_pos below, ofNat_of_toNat_byte first rfl]
  rfl

private theorem splits_two (above : 0xC2 ≤ first.toNat) (below : first.toNat < 0xE0)
    (isRead : read .start (first :: rest) = text.map some) : Splits (first :: rest) text := by
  rw [read_start_of_lead (lead?_two above below)] at isRead
  obtain ⟨second, rest, rfl, low, high, isRead⟩ := exists_of_read_inside isRead
  refine splits_of_read ?_ isRead
  rw [encodeChar, toNat_ofNat_char (by omega), if_neg (by omega), if_pos (by omega),
    ofNat_of_toNat_byte first (by omega), ofNat_of_toNat_byte second (by omega)]
  rfl

private theorem splits_three (above : 0xE0 ≤ first.toNat) (below : first.toNat < 0xF0)
    (isRead : read .start (first :: rest) = text.map some) : Splits (first :: rest) text := by
  rw [read_start_of_lead (lead?_three above below)] at isRead
  obtain ⟨second, rest, rfl, low, high, isRead⟩ := exists_of_read_inside isRead
  obtain ⟨third, rest, rfl, low', high', isRead⟩ := exists_of_read_inside isRead
  refine splits_of_read ?_ isRead
  -- The bounds of the second byte keep the code out of the shorter forms and the surrogates.
  have noShort : first.toNat = 0xE0 → 0xA0 ≤ second.toNat := fun isLow => by
    rwa [if_pos isLow] at low
  have noSurrogate : first.toNat = 0xED → second.toNat ≤ 0x9F := fun isHigh => by
    rwa [if_pos isHigh] at high
  have bounds : 0x80 ≤ second.toNat ∧ second.toNat ≤ 0xBF := by
    constructor
    · split at low <;> omega
    · split at high <;> omega
  clear low high
  rw [encodeChar, toNat_ofNat_char (by omega), if_neg (by omega), if_neg (by omega),
    if_pos (by omega), ofNat_of_toNat_byte first (by omega),
    ofNat_of_toNat_byte second (by omega), ofNat_of_toNat_byte third (by omega)]
  rfl

private theorem splits_four (above : 0xF0 ≤ first.toNat) (below : first.toNat ≤ 0xF4)
    (isRead : read .start (first :: rest) = text.map some) : Splits (first :: rest) text := by
  rw [read_start_of_lead (lead?_four above below)] at isRead
  obtain ⟨second, rest, rfl, low, high, isRead⟩ := exists_of_read_inside isRead
  obtain ⟨third, rest, rfl, low', high', isRead⟩ := exists_of_read_inside isRead
  obtain ⟨fourth, rest, rfl, low'', high'', isRead⟩ := exists_of_read_inside isRead
  refine splits_of_read ?_ isRead
  have noShort : first.toNat = 0xF0 → 0x90 ≤ second.toNat := fun isLow => by
    rwa [if_pos isLow] at low
  have inRange : first.toNat = 0xF4 → second.toNat ≤ 0x8F := fun isHigh => by
    rwa [if_pos isHigh] at high
  have bounds : 0x80 ≤ second.toNat ∧ second.toNat ≤ 0xBF := by
    constructor
    · split at low <;> omega
    · split at high <;> omega
  clear low high
  rw [encodeChar, toNat_ofNat_char (by omega), if_neg (by omega), if_neg (by omega),
    if_neg (by omega), ofNat_of_toNat_byte first (by omega),
    ofNat_of_toNat_byte second (by omega), ofNat_of_toNat_byte third (by omega),
    ofNat_of_toNat_byte fourth (by omega)]
  rfl

/-- What reads without a gap begins with the bytes of a character. -/
theorem splits_of_read_start (isRead : read .start (first :: rest) = text.map some) :
    Splits (first :: rest) text := by
  by_cases one : first.toNat < 0x80
  · exact splits_one one isRead
  by_cases outside : first.toNat < 0xC2 ∨ 0xF4 < first.toNat
  · have noLead : lead? first.toNat = none := lead?_none (by omega)
    simp only [read, step, fromStart, noLead, List.cons_append] at isRead
    cases text <;> simp at isRead
  by_cases two : first.toNat < 0xE0
  · exact splits_two (by omega) two isRead
  by_cases three : first.toNat < 0xF0
  · exact splits_three (by omega) three isRead
  · exact splits_four (by omega) (by omega) isRead

end Splits

private theorem eq_encode_of_read {bytes : List UInt8} {text : List Char}
    (isRead : read .start bytes = text.map some) : bytes = encode text := by
  induction text generalizing bytes with
  | nil =>
      cases bytes with
      | nil => rfl
      | cons first rest =>
          obtain ⟨_, _, _, _, absurdly, _⟩ := splits_of_read_start isRead
          contradiction
  | cons c more inductionHypothesis =>
      cases bytes with
      | nil => contradiction
      | cons first rest =>
          obtain ⟨_, after, _, begins, same, isRest⟩ := splits_of_read_start isRead
          obtain ⟨rfl, rfl⟩ := List.cons.inj same
          rw [begins, inductionHypothesis isRest]
          rfl

theorem decode?_eq_some_iff {bytes : List UInt8} {text : List Char} :
    decode? bytes = some text ↔ bytes = encode text := by
  rw [decode?, mapM_eq_some_iff, List.map_id]
  exact ⟨eq_encode_of_read, fun same => same ▸ read_encode text⟩

theorem encode_inj {text other : List Char} (same : encode text = encode other) : text = other :=
  Option.some.inj ((decode?_eq_some_iff.mpr rfl).symm.trans (decode?_eq_some_iff.mpr same))

end EventConsole.Text.Utf8
