import EventConsole.Proofs.Text.Utf8
import EventConsole.Text.Base64

/-!
Contract: Base64 text and bytes determine each other.

Owns: the alphabet as a numbering of 64 characters, one group of four characters
against its bytes, and from them both directions of `decode?_eq_some_iff`.
-/

namespace EventConsole.Text.Base64

open Utf8 (ofNat_of_toNat_byte toNat_ofNat_byte ofNat_of_eq)

/-! ### The alphabet -/

theorem value?_symbol {value : Nat} (small : value < 64) : value? (symbol value) = some value := by
  have all : ∀ value : Fin 64, value? (symbol value.val) = some value.val := by decide
  exact all ⟨value, small⟩

/-- The padding is no character of the alphabet. -/
theorem symbol_ne_padding {value : Nat} (small : value < 64) : symbol value ≠ '=' := by
  have all : ∀ value : Fin 64, symbol value.val ≠ '=' := by decide
  exact all ⟨value, small⟩

/-- A character has a value only if it is the symbol of that value. -/
theorem symbol_of_value? {c : Char} {value : Nat} (hasValue : value? c = some value) :
    value < 64 ∧ symbol value = c := by
  unfold value? at hasValue
  dsimp only at hasValue
  split at hasValue
  case isTrue upper =>
    obtain rfl := Option.some.inj hasValue
    refine ⟨by omega, ?_⟩
    rw [symbol, if_pos (by omega)]
    exact ofNat_of_eq c (by omega)
  split at hasValue
  case isTrue lower =>
    obtain rfl := Option.some.inj hasValue
    refine ⟨by omega, ?_⟩
    rw [symbol, if_neg (by omega), if_pos (by omega)]
    exact ofNat_of_eq c (by omega)
  split at hasValue
  case isTrue digit =>
    obtain rfl := Option.some.inj hasValue
    refine ⟨by omega, ?_⟩
    rw [symbol, if_neg (by omega), if_neg (by omega), if_pos (by omega)]
    exact ofNat_of_eq c (by omega)
  split at hasValue
  case isTrue plus =>
    obtain rfl := Option.some.inj hasValue
    exact ⟨by decide, plus.symm⟩
  split at hasValue
  case isTrue slash =>
    obtain rfl := Option.some.inj hasValue
    exact ⟨by decide, slash.symm⟩
  contradiction

/-! ### Groups -/

theorem decodeGroup?_symbols {w x y z : Nat} (hw : w < 64) (hx : x < 64) (hy : y < 64)
    (hz : z < 64) {a b c : UInt8}
    (bytes : ((w * 64 + x) * 64 + y) * 64 + z = (a.toNat * 256 + b.toNat) * 256 + c.toNat) :
    decodeGroup? (symbol w) (symbol x) (symbol y) (symbol z) = some [a, b, c] := by
  have boundB := b.toNat_lt
  have boundC := c.toNat_lt
  simp only [decodeGroup?, value?_symbol hw, value?_symbol hx, value?_symbol hy, value?_symbol hz,
    Option.bind_eq_bind, Option.bind_some, bytes]
  rw [ofNat_of_toNat_byte a (by omega), ofNat_of_toNat_byte b (by omega),
    ofNat_of_toNat_byte c (by omega)]
  rfl

/-- Three bytes in front of others are written as the group that reads as them. -/
theorem encode_of_decodeGroup? {w x y z : Char} {group : List UInt8}
    (decoded : decodeGroup? w x y z = some group) (rest : List UInt8) :
    encode (group ++ rest) = w :: x :: y :: z :: encode rest := by
  simp only [decodeGroup?, Option.bind_eq_bind, Option.bind_eq_some_iff] at decoded
  obtain ⟨w', hw, x', hx, y', hy, z', hz, same⟩ := decoded
  obtain rfl := Option.some.inj same
  obtain ⟨smallW, rfl⟩ := symbol_of_value? hw
  obtain ⟨smallX, rfl⟩ := symbol_of_value? hx
  obtain ⟨smallY, rfl⟩ := symbol_of_value? hy
  obtain ⟨smallZ, rfl⟩ := symbol_of_value? hz
  simp only [List.cons_append, List.nil_append, encode]
  rw [toNat_ofNat_byte (by omega), toNat_ofNat_byte (by omega), toNat_ofNat_byte (by omega)]
  congr <;> omega

private theorem encode_of_decodeLast? {w x y z : Char} {group : List UInt8}
    (decoded : decodeLast? w x y z = some group) : encode group = [w, x, y, z] := by
  unfold decodeLast? at decoded
  split at decoded
  case isFalse =>
    simpa [encode] using encode_of_decodeGroup? decoded []
  rename_i endsPadded
  subst endsPadded
  split at decoded
  case isTrue twice =>
    subst twice
    simp only [Option.bind_eq_bind, Option.bind_eq_some_iff] at decoded
    obtain ⟨w', hw, x', hx, same⟩ := decoded
    obtain ⟨smallW, rfl⟩ := symbol_of_value? hw
    obtain ⟨smallX, rfl⟩ := symbol_of_value? hx
    split at same
    case isFalse => contradiction
    rename_i noStray
    obtain rfl := Option.some.inj same
    simp only [encode]
    rw [toNat_ofNat_byte (by omega)]
    congr <;> omega
  case isFalse =>
    simp only [Option.bind_eq_bind, Option.bind_eq_some_iff] at decoded
    obtain ⟨w', hw, x', hx, y', hy, same⟩ := decoded
    obtain ⟨smallW, rfl⟩ := symbol_of_value? hw
    obtain ⟨smallX, rfl⟩ := symbol_of_value? hx
    obtain ⟨smallY, rfl⟩ := symbol_of_value? hy
    split at same
    case isFalse => contradiction
    rename_i noStray
    obtain rfl := Option.some.inj same
    simp only [encode]
    rw [toNat_ofNat_byte (by omega), toNat_ofNat_byte (by omega)]
    congr <;> omega

/-! ### Texts -/

/-- What holds of the alphabet and the padding holds of every written character. -/
theorem forall_mem_encode (holds : Char → Prop)
    (symbols : ∀ value, value < 64 → holds (symbol value)) (padding : holds '=')
    (bytes : List UInt8) : ∀ c ∈ encode bytes, holds c := by
  fun_induction encode bytes with
  | case1 => exact fun _ absurdly => absurd absurdly List.not_mem_nil
  | case2 a n =>
      have := a.toNat_lt
      simp only [List.forall_mem_cons]
      exact ⟨symbols _ (by omega), symbols _ (by omega), padding, padding, by simp⟩
  | case3 a b n =>
      have := a.toNat_lt
      have := b.toNat_lt
      simp only [List.forall_mem_cons]
      exact ⟨symbols _ (by omega), symbols _ (by omega), symbols _ (by omega), padding, by simp⟩
  | case4 a b c rest n inductionHypothesis =>
      have := a.toNat_lt
      have := b.toNat_lt
      have := c.toNat_lt
      simp only [List.forall_mem_cons]
      exact ⟨symbols _ (by omega), symbols _ (by omega), symbols _ (by omega),
        symbols _ (by omega), inductionHypothesis⟩

private theorem eq_encode_of_decode? {text : List Char} {bytes : List UInt8}
    (decoded : decode? text = some bytes) : text = encode bytes := by
  fun_induction decode? text generalizing bytes with
  | case1 =>
      obtain rfl := Option.some.inj decoded
      rfl
  | case2 w x y z => exact (encode_of_decodeLast? decoded).symm
  | case3 w x y z rest notLast inductionHypothesis =>
      simp only [Option.bind_eq_bind, Option.bind_eq_some_iff] at decoded
      obtain ⟨group, isGroup, tail, isTail, same⟩ := decoded
      obtain rfl := Option.some.inj same
      rw [encode_of_decodeGroup? isGroup, inductionHypothesis isTail]
  | case4 => contradiction

/-- A group that is not padded reads alike at the end and before other groups. -/
theorem decode?_group {w x y z : Char} {rest : List Char} {group tail : List UInt8}
    (notPadded : z ≠ '=') (isGroup : decodeGroup? w x y z = some group)
    (isTail : decode? rest = some tail) :
    decode? (w :: x :: y :: z :: rest) = some (group ++ tail) := by
  cases rest with
  | nil =>
      obtain rfl := Option.some.inj isTail
      rw [decode?, decodeLast?, if_neg notPadded, isGroup, List.append_nil]
  | cons c more => simp [decode?, isGroup, isTail]

theorem decode?_encode (bytes : List UInt8) : decode? (encode bytes) = some bytes := by
  fun_induction encode bytes with
  | case1 => rfl
  | case2 a n =>
      have bound : n < 4096 := by have := a.toNat_lt; omega
      have noStray : n % 64 % 16 = 0 := by omega
      simp only [decode?, decodeLast?, value?_symbol (show n / 64 < 64 by omega),
        value?_symbol (show n % 64 < 64 by omega), Option.bind_eq_bind, Option.bind_some,
        if_true, if_pos noStray]
      rw [ofNat_of_toNat_byte a (by omega)]
      rfl
  | case3 a b n =>
      have bound : n < 262144 := by have := a.toNat_lt; have := b.toNat_lt; omega
      have noStray : n % 64 % 4 = 0 := by omega
      have boundB := b.toNat_lt
      simp only [decode?, decodeLast?, if_true,
        if_neg (symbol_ne_padding (show n % 64 < 64 by omega)),
        value?_symbol (show n / 4096 < 64 by omega), value?_symbol (show n / 64 % 64 < 64 by omega),
        value?_symbol (show n % 64 < 64 by omega), Option.bind_eq_bind, Option.bind_some,
        if_pos noStray]
      rw [ofNat_of_toNat_byte a (by omega), ofNat_of_toNat_byte b (by omega)]
      rfl
  | case4 a b c rest n inductionHypothesis =>
      have bound : n < 16777216 := by
        have := a.toNat_lt; have := b.toNat_lt; have := c.toNat_lt; omega
      have isGroup := decodeGroup?_symbols (w := n / 262144) (x := n / 4096 % 64)
        (y := n / 64 % 64) (z := n % 64) (a := a) (b := b) (c := c) (by omega) (by omega)
        (by omega) (by omega) (by omega)
      exact decode?_group (symbol_ne_padding (by omega)) isGroup inductionHypothesis

theorem decode?_eq_some_iff {text : List Char} {bytes : List UInt8} :
    decode? text = some bytes ↔ text = encode bytes :=
  ⟨eq_encode_of_decode?, fun same => same ▸ decode?_encode bytes⟩

theorem encode_inj {bytes other : List UInt8} (same : encode bytes = encode other) :
    bytes = other :=
  Option.some.inj ((decode?_encode bytes).symm.trans (decode?_eq_some_iff.mpr same))

end EventConsole.Text.Base64
