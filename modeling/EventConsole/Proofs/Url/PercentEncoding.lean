import EventConsole.Url.PercentEncoding
import Mathlib.Data.Bool.AllAny

/-!
Contract: a text that was encoded for a part of a URL needs no more encoding there.

Owns: the texts that a part holds as they are, and texts that hold nothing encoded.
-/

namespace EventConsole.Url

/-- A text that a part of a URL holds as it is: ASCII, and nothing that the part encodes. -/
def IsEncoded (encoded : Char → Bool) (text : List Char) : Prop :=
  ∀ c ∈ text, c.toNat < 128 ∧ encoded c = false

instance (encoded : Char → Bool) (text : List Char) : Decidable (IsEncoded encoded text) :=
  decidable_of_iff (text.all fun c => decide (c.toNat < 128 ∧ encoded c = false))
    List.all_iff_forall_prop

/-- The characters that encoding writes. -/
def encodingMarks : List Char := "%0123456789ABCDEF".toList

variable {encoded stricter : Char → Bool} {text : List Char}

/-- What a stricter part holds may stand in another one. -/
theorem IsEncoded.weaken (settled : IsEncoded stricter text)
    (weaker : ∀ c, stricter c = false → encoded c = false) : IsEncoded encoded text :=
  fun c member => ⟨(settled c member).1, weaker c (settled c member).2⟩

theorem IsEncoded.not_mem (settled : IsEncoded encoded text) {c : Char}
    (isEncoded : encoded c = true) : c ∉ text := by
  intro member
  rw [(settled c member).2] at isEncoded
  cases isEncoded

theorem percentEncode_of_isEncoded (settled : IsEncoded encoded text) :
    percentEncode encoded text = text := by
  induction text with
  | nil => rfl
  | cons c rest ih =>
      obtain ⟨⟨ascii, plain⟩, settledRest⟩ := List.forall_mem_cons.mp settled
      have once : encodeChar encoded c = [c] := by simp [encodeChar, ascii, plain]
      rw [percentEncode, List.flatMap_cons, once, ← percentEncode, ih settledRest]
      rfl

private theorem hexDigit_mem {value : Nat} (small : value < 16) :
    hexDigit value ∈ encodingMarks := by
  have all : ∀ value : Fin 16, hexDigit value.val ∈ encodingMarks := by decide
  exact all ⟨value, small⟩

private theorem mem_encodingMarks_of_encodeByte {byte : UInt8} {c : Char}
    (member : c ∈ encodeByte byte) : c ∈ encodingMarks := by
  have below : byte.toNat < 256 := byte.toNat_lt
  simp only [encodeByte, List.mem_cons, List.not_mem_nil, or_false] at member
  rcases member with rfl | rfl | rfl
  · decide
  · exact hexDigit_mem (by omega)
  · exact hexDigit_mem (by omega)

/-- Encoding keeps characters and adds marks. -/
theorem mem_percentEncode {c : Char} (member : c ∈ percentEncode encoded text) :
    c ∈ text ∧ c.toNat < 128 ∧ encoded c = false ∨ c ∈ encodingMarks := by
  obtain ⟨source, inText, inSource⟩ := List.mem_flatMap.mp member
  rw [encodeChar] at inSource
  split at inSource
  case isTrue plain =>
    obtain rfl := List.mem_singleton.mp inSource
    exact .inl ⟨inText, by simpa using plain⟩
  case isFalse =>
    obtain ⟨byte, -, inByte⟩ := List.mem_flatMap.mp inSource
    exact .inr (mem_encodingMarks_of_encodeByte inByte)

/-- Encoding leaves what the part holds, as long as the part does not encode what encoding
writes. -/
theorem isEncoded_percentEncode (keepsMarks : ∀ c ∈ encodingMarks, encoded c = false)
    (text : List Char) : IsEncoded encoded (percentEncode encoded text) := by
  have ascii : ∀ c ∈ encodingMarks, c.toNat < 128 := List.all_iff_forall_prop.mp (by decide)
  intro c member
  rcases mem_percentEncode member with ⟨-, plain⟩ | isMark
  · exact plain
  · exact ⟨ascii c isMark, keepsMarks c isMark⟩

/-! ### The parts of a URL -/

/-- User information encodes all that a path does. -/
theorem IsEncoded.path_of_userinfo (settled : IsEncoded encodedInUserinfo text) :
    IsEncoded encodedInPath text := by
  refine settled.weaken fun c plain => ?_
  simp only [encodedInUserinfo, Bool.or_eq_false_iff] at plain
  simp [plain]

/-- What a path holds shows: it is neither a control nor a blank. -/
theorem IsEncoded.visible (settled : IsEncoded encodedInPath text) :
    ∀ c ∈ text, 32 < c.toNat := by
  intro c member
  have plain := (settled c member).2
  rcases Nat.lt_or_ge 32 c.toNat with shows | outer
  · exact shows
  exfalso
  have code : c.toNat < 32 ∨ c = ' ' := by
    rcases Nat.lt_or_eq_of_le outer with control | blank
    · exact .inl control
    · exact .inr (Char.toNat_inj.mp blank)
  rcases code with control | rfl
  · simp [encodedInPath, encodedInFragment, isControl, control] at plain
  · simp [encodedInPath, encodedInFragment] at plain

/-! ### Decoding -/

theorem percentDecode_plain (plain : '%' ∉ text) : percentDecode text = Text.Utf8.encode text := by
  induction text with
  | nil => rfl
  | cons c rest inductionHypothesis =>
      obtain ⟨notPercent, restPlain⟩ := List.ne_and_not_mem_of_not_mem_cons plain
      rw [percentDecode, inductionHypothesis restPlain]
      · rfl
      · intro _ _ _ isPercent _
        exact notPercent isPercent.symm

end EventConsole.Url
