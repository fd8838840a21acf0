import EventConsole.Proofs.Decoding
import EventConsole.Proofs.Text.Pieces
import EventConsole.Url.Address
import Mathlib.Data.List.Induction
import Mathlib.Data.List.TakeDrop

/-!
Contract: numeric addresses read back from their texts.

The text of a 32-bit address is four decimal bytes. That of a 128-bit address
leaves out the longest run of zero groups, and reading fills it in again.

Owns: digits and the numbers they stand for in a base, both kinds of addresses
and what their texts hold.
-/

namespace EventConsole.Url

/-! ### Numbers -/

theorem hexValue?_digitChar {value : Nat} (small : value < 16) :
    hexValue? (Nat.digitChar value) = some value := by
  have all : ∀ value : Fin 16, hexValue? (Nat.digitChar value.val) = some value.val := by decide
  exact all ⟨value, small⟩

private theorem digitsValue_append (base : Nat) (digits : List Char) (c : Char) :
    digitsValue base (digits ++ [c]) =
      digitsValue base digits * base + (hexValue? c).getD 0 := by
  simp [digitsValue, List.foldl_append]

/-- Digits of a number have this value. -/
theorem digitsValue_toDigits {base : Nat} (two : 2 ≤ base) (sixteen : base ≤ 16) (n : Nat) :
    digitsValue base (Nat.toDigits base n) = n := by
  induction n using Nat.strongRecOn with
  | _ n ih =>
      rw [Nat.toDigits_eq_if (by omega)]
      split
      case isTrue small =>
        have value := hexValue?_digitChar (show n < 16 by omega)
        simp [digitsValue, value]
      case isFalse large =>
        have remainder := Nat.mod_lt n (show 0 < base by omega)
        have smaller : n / base < n := Nat.div_lt_self (by omega) (by omega)
        rw [digitsValue_append, ih _ smaller, hexValue?_digitChar (by omega), Option.getD_some,
          Nat.mul_comm, Nat.div_add_mod]

theorem isHexDigit_of_mem {n : Nat} {c : Char} (member : c ∈ Nat.toDigits 16 n) :
    isHexDigit c = true := by
  induction n using Nat.strongRecOn with
  | _ n ih =>
      rw [Nat.toDigits_eq_if (by decide)] at member
      split at member
      case isTrue small =>
        rw [List.mem_singleton.mp member, isHexDigit, hexValue?_digitChar small]
        rfl
      case isFalse large =>
        rcases List.mem_append.mp member with before | last
        · exact ih _ (by omega) before
        · rw [List.mem_singleton.mp last, isHexDigit,
            hexValue?_digitChar (Nat.mod_lt n (by decide))]
          rfl

private theorem digitsValue_lt {base : Nat} (sixteen : 16 ≤ base) (digits : List Char) :
    digitsValue base digits < powerOf base digits.length := by
  induction digits using List.reverseRecOn with
  | nil => exact Nat.one_pos
  | append_singleton digits c ih =>
      have below : (hexValue? c).getD 0 < 16 := by
        unfold hexValue?
        grind
      have next : powerOf base (digits ++ [c]).length = powerOf base digits.length * base := by
        rw [List.length_append]
        rfl
      rw [digitsValue_append, next]
      calc digitsValue base digits * base + (hexValue? c).getD 0
          < digitsValue base digits * base + base := by omega
        _ = (digitsValue base digits + 1) * base := by rw [Nat.add_mul, Nat.one_mul]
        _ ≤ powerOf base digits.length * base := Nat.mul_le_mul_right base ih

/-! ### Addresses of 32 bits -/

/-- The digits of a byte are read as this byte. -/
theorem ipv4Number?_byte {byte : Nat} (small : byte < 256) :
    ipv4Number? (Nat.toDigits 10 byte) = some byte := by
  have all : ∀ byte : Fin 256, ipv4Number? (Nat.toDigits 10 byte.val) = some byte.val := by
    decide +kernel
  exact all ⟨byte, small⟩

def byteTexts (address : BitVec 32) : List (List Char) := (ipv4Bytes address).map (Nat.toDigits 10)

private theorem ipv4Bytes_lt {address : BitVec 32} {byte : Nat}
    (member : byte ∈ ipv4Bytes address) : byte < 256 := by
  obtain ⟨shift, -, rfl⟩ := List.mem_map.mp member
  exact Nat.mod_lt _ (by decide)

private theorem isDigit_of_mem_byteTexts {address : BitVec 32} {text : List Char}
    (member : text ∈ byteTexts address) : ∀ c ∈ text, c.isDigit = true := by
  obtain ⟨byte, -, rfl⟩ := List.mem_map.mp member
  exact fun c inByte => Nat.isDigit_of_mem_toDigits (by decide) (by decide) inByte

private theorem toList_ipv4Text (address : BitVec 32) :
    (ipv4Text address).toList = ['.'].intercalate (byteTexts address) := by
  have digits : String.toList ∘ (toString : Nat → String) = Nat.toDigits 10 :=
    funext fun _ => String.toList_ofList
  rw [ipv4Text, String.toList_intercalate, List.map_map, digits]
  rfl

private theorem labels_ipv4Text (address : BitVec 32) :
    labels (ipv4Text address).toList = byteTexts address := by
  rw [toList_ipv4Text, labels, List.splitOn_intercalate '.' _ (by simp [byteTexts, ipv4Bytes])]
  intro text member isDot
  exact absurd (isDigit_of_mem_byteTexts member _ isDot) (by decide)

private theorem properLabels_ipv4Text (address : BitVec 32) :
    properLabels (ipv4Text address).toList = byteTexts address := by
  have filled : ∀ n, Nat.toDigits 10 n ≠ [] := fun n => Nat.toDigits_ne_nil
  rw [properLabels, labels_ipv4Text]
  simp only [byteTexts, ipv4Bytes, List.map_cons, List.map_nil, List.reverse_cons,
    List.reverse_nil, List.nil_append, List.cons_append]
  split
  case h_1 rest shape => exact absurd (List.cons_eq_cons.mp shape).1 (filled _)
  case h_2 => rfl

/-- The text of an address ends in a number. -/
theorem endsInNumber_ipv4Text (address : BitVec 32) :
    endsInNumber (ipv4Text address).toList = true := by
  rw [endsInNumber, properLabels_ipv4Text]
  simp only [byteTexts, ipv4Bytes, List.map_cons, List.map_nil, List.getLast?_cons_cons,
    List.getLast?_singleton]
  rw [ipv4Number?_byte (Nat.mod_lt _ (by decide))]
  exact Bool.or_true _

private theorem mapM_ipv4Number? (address : BitVec 32) :
    (byteTexts address).mapM ipv4Number? = some (ipv4Bytes address) := by
  rw [mapM_eq_some_iff, byteTexts, List.map_map]
  exact List.map_congr_left fun byte member => ipv4Number?_byte (ipv4Bytes_lt member)

private theorem ipv4OfNumbers?_ipv4Bytes (address : BitVec 32) :
    ipv4OfNumbers? (ipv4Bytes address).reverse = some address := by
  have whole := address.isLt
  simp only [ipv4Bytes, List.map_cons, List.map_nil, BitVec.toNat_ushiftRight,
    Nat.shiftRight_eq_div_pow, List.reverse_cons, List.reverse_nil, List.nil_append,
    List.cons_append]
  rw [ipv4OfNumbers?, if_pos]
  case hc =>
    refine ⟨Nat.le_refl 3, ?_, Nat.mod_lt _ (by decide)⟩
    simp only [List.all_cons, List.all_nil, Bool.and_true, Bool.and_eq_true, decide_eq_true_eq]
    omega
  refine congrArg some (BitVec.eq_of_toNat_eq ?_)
  have byte : powerOf 256 1 = 256 := rfl
  simp only [List.reverse_cons, List.reverse_nil, List.nil_append, List.cons_append,
    List.foldl_cons, List.foldl_nil, List.length_cons, List.length_nil, Nat.reduceAdd,
    Nat.reduceSub, byte, BitVec.toNat_ofNat]
  omega

/-- An address reads back from its text. -/
theorem parseIpv4_ipv4Text (address : BitVec 32) :
    parseIpv4 (ipv4Text address).toList = .ok address := by
  rw [parseIpv4, properLabels_ipv4Text, mapM_ipv4Number?, Option.bind_some,
    ipv4OfNumbers?_ipv4Bytes]

/-! ### Addresses of 128 bits -/

/-- The groups of an address. -/
structure IsGroups (groups : List Nat) : Prop where
  eight : groups.length = 8
  small : ∀ group ∈ groups, group < 65536

def groupTexts (groups : List Nat) : List (List Char) := groups.map (Nat.toDigits 16)

variable {groups before after : List Nat}

private theorem hexGroup?_toDigits {group : Nat} (small : group < 65536) :
    hexGroup? (Nat.toDigits 16 group) = some [group] := by
  have short : (Nat.toDigits 16 group).length ≤ 4 :=
    (Nat.length_toDigits_le_iff (by decide) (by decide)).mpr small
  have digits : (Nat.toDigits 16 group).all isHexDigit = true :=
    List.all_eq_true.mpr fun _ member => isHexDigit_of_mem member
  rw [hexGroup?, if_pos ⟨Nat.length_toDigits_pos, short, digits⟩,
    digitsValue_toDigits (by decide) (by decide)]

private theorem mapM_hexGroup? (small : ∀ group ∈ groups, group < 65536) :
    (groupTexts groups).mapM hexGroup? = some (groups.map fun group => [group]) := by
  rw [mapM_eq_some_iff, groupTexts, List.map_map, List.map_map]
  exact List.map_congr_left fun group member => hexGroup?_toDigits (small group member)

theorem isHexDigit_of_mem_groupTexts {text : List Char} (member : text ∈ groupTexts groups) :
    text ≠ [] ∧ ∀ c ∈ text, isHexDigit c = true := by
  obtain ⟨group, -, rfl⟩ := List.mem_map.mp member
  exact ⟨Nat.toDigits_ne_nil, fun c inGroup => isHexDigit_of_mem inGroup⟩

private theorem ipv6Groups?_groupTexts (small : ∀ group ∈ groups, group < 65536) :
    ipv6Groups? (groupTexts groups) = some groups := by
  induction groups with
  | nil => rfl
  | cons group rest ih =>
      obtain ⟨smallGroup, smallRest⟩ := List.forall_mem_cons.mp small
      have one := hexGroup?_toDigits smallGroup
      cases rest with
      | nil =>
          have noDot : (Nat.toDigits 16 group).contains '.' = false := by
            rw [List.contains_eq_mem, decide_eq_false_iff_not]
            intro isDot
            exact absurd (isHexDigit_of_mem isDot) (by decide)
          change (if (Nat.toDigits 16 group).contains '.' then _ else _) = _
          rw [noDot, if_neg Bool.false_ne_true, one]
      | cons next others =>
          have rest := ih smallRest
          simp only [groupTexts, List.map_cons] at rest ⊢
          rw [ipv6Groups?, one, rest]
          · rfl
          · simp

/-! #### The text of groups -/

theorem toList_colonText (groups : List Nat) :
    (colonText groups).toList = [':'].intercalate (groupTexts groups) := by
  have digits : String.toList ∘ hexText = Nat.toDigits 16 :=
    funext fun _ => String.toList_ofList
  rw [colonText, String.toList_intercalate, List.map_map, digits]
  rfl

theorem splitOn_colonText (filled : groups ≠ []) :
    (colonText groups).toList.splitOn ':' = groupTexts groups := by
  rw [toList_colonText, List.splitOn_intercalate ':' _ (by simpa [groupTexts] using filled)]
  intro text member isColon
  exact absurd ((isHexDigit_of_mem_groupTexts member).2 _ isColon) (by decide)

/-- The text of groups begins with a digit. -/
theorem exists_head_colonText (filled : groups ≠ []) :
    ∃ c rest, (colonText groups).toList = c :: rest ∧ c ≠ ':' := by
  obtain ⟨group, others, rfl⟩ := List.exists_cons_of_ne_nil filled
  obtain ⟨c, digits, shape⟩ :=
    List.exists_cons_of_ne_nil (Nat.toDigits_ne_nil (n := group) (b := 16))
  have isHex : isHexDigit c = true := isHexDigit_of_mem (n := group) (by simp [shape])
  have noColon : c ≠ ':' := by
    rintro rfl
    exact absurd isHex (by decide)
  rw [toList_colonText]
  cases others with
  | nil => exact ⟨c, digits, by simp [groupTexts, shape], noColon⟩
  | cons next rest =>
      exact ⟨c, digits ++ [':'] ++ [':'].intercalate (groupTexts (next :: rest)),
        by simp [groupTexts, shape], noColon⟩

/-- The parts that pieces between colons are, without a second empty one at the end. -/
def partsOf? (pieces : List (List Char)) : Option (List (List Char)) :=
  match pieces.reverse with
  | [] :: [] :: rest => some ([] :: rest).reverse
  | [] :: _ => none
  | parts => some parts.reverse

private theorem ipv6Parts?_of_ne {c : Char} {rest : List Char} (noColon : c ≠ ':') :
    ipv6Parts? (c :: rest) = partsOf? ((c :: rest).splitOn ':') := by
  unfold ipv6Parts?
  split
  case h_1 shape => exact absurd (List.cons_eq_cons.mp shape).1 noColon
  case h_2 shape => exact absurd (List.cons_eq_cons.mp shape).1 noColon
  case h_3 => rfl

private theorem partsOf?_of_last {pieces : List (List Char)} {last : List Char}
    (filled : last ≠ []) : partsOf? (pieces ++ [last]) = some (pieces ++ [last]) := by
  unfold partsOf?
  rw [List.reverse_append, List.reverse_singleton, List.singleton_append]
  split
  case h_1 shape => exact absurd (List.cons_eq_cons.mp shape).1 filled
  case h_2 shape => exact absurd (List.cons_eq_cons.mp shape).1 filled
  case h_3 => simp

private theorem partsOf?_groupTexts (pieces : List (List Char)) (filled : groups ≠ []) :
    partsOf? (pieces ++ groupTexts groups) = some (pieces ++ groupTexts groups) := by
  obtain ⟨front, last, rfl⟩ := (List.eq_nil_or_concat groups).resolve_left filled
  rw [groupTexts, List.concat_eq_append, List.map_append, List.map_singleton, ← List.append_assoc]
  exact partsOf?_of_last Nat.toDigits_ne_nil

private theorem partsOf?_end (pieces : List (List Char)) :
    partsOf? (pieces ++ [[], []]) = some (pieces ++ [[]]) := by
  simp [partsOf?]

private theorem ipv6Parts?_colonText (filled : groups ≠ []) :
    ipv6Parts? (colonText groups).toList = some (groupTexts groups) := by
  have pieces := splitOn_colonText filled
  obtain ⟨c, rest, text, noColon⟩ := exists_head_colonText filled
  rw [text] at pieces ⊢
  rw [ipv6Parts?_of_ne noColon, pieces]
  exact partsOf?_groupTexts [] filled

/-- Two colons leave an empty part where groups were left out, also at either end. -/
theorem ipv6Parts?_gap (before after : List Nat) :
    ipv6Parts? ((colonText before).toList ++ ':' :: ':' :: (colonText after).toList) =
      some (groupTexts before ++ [] :: groupTexts after) := by
  have afterColon : partsOf? (groupTexts before ++ (':' :: (colonText after).toList).splitOn ':') =
      some (groupTexts before ++ [] :: groupTexts after) := by
    rw [List.splitOn_cons_eq_if_modifyHead, if_pos (by rfl)]
    cases after with
    | nil => exact partsOf?_end (groupTexts before)
    | cons group rest =>
        rw [splitOn_colonText (List.cons_ne_nil group rest)]
        have parts := partsOf?_groupTexts (groupTexts before ++ [[]]) (List.cons_ne_nil group rest)
        simpa using parts
  cases before with
  | nil => exact afterColon
  | cons group rest =>
      have pieces := splitOn_colonText (List.cons_ne_nil group rest)
      obtain ⟨c, others, text, noColon⟩ := exists_head_colonText (List.cons_ne_nil group rest)
      rw [text] at pieces ⊢
      rw [List.cons_append, ipv6Parts?_of_ne noColon, ← List.cons_append,
        List.splitOn_append_cons_self, pieces, afterColon]

/-! #### Reading -/

theorem span_groupTexts (rest : List (List Char)) (stops : rest.head?.getD [] = []) :
    (groupTexts groups ++ rest).span (fun part => !part.isEmpty) = (groupTexts groups, rest) := by
  have filled : ∀ text ∈ groupTexts groups, (!text.isEmpty) = true := by
    intro text member
    simpa using (isHexDigit_of_mem_groupTexts member).1
  have none : rest.takeWhile (fun part => !part.isEmpty) = [] := by
    cases rest with
    | nil => rfl
    | cons part others =>
        obtain rfl : part = [] := stops
        rfl
  have all := List.takeWhile_append_dropWhile (p := fun part => !part.isEmpty) (l := rest)
  rw [none, List.nil_append] at all
  rw [List.span_eq_takeWhile_dropWhile, List.takeWhile_append_of_pos filled,
    List.dropWhile_append_of_pos filled, none, all, List.append_nil]

private theorem ipv6OfParts?_groupTexts (isGroups : IsGroups groups) :
    ipv6OfParts? (groupTexts groups) = some groups := by
  have span : (groupTexts groups ++ []).span (fun part => !part.isEmpty) =
      (groupTexts groups, []) := span_groupTexts [] rfl
  rw [List.append_nil] at span
  rw [ipv6OfParts?, span]
  simp only [ipv6Groups?_groupTexts isGroups.small, Option.bind_some, isGroups.eight, if_true]

/-- The empty part is filled in with zeros. -/
theorem ipv6OfParts?_gap (smallBefore : ∀ group ∈ before, group < 65536)
    (smallAfter : ∀ group ∈ after, group < 65536) {zeros : Nat} (positive : 0 < zeros)
    (eight : before.length + zeros + after.length = 8) :
    ipv6OfParts? (groupTexts before ++ [] :: groupTexts after) =
      some (before ++ List.replicate zeros 0 ++ after) := by
  rw [ipv6OfParts?, span_groupTexts ([] :: groupTexts after) rfl]
  simp only [mapM_hexGroup? smallBefore, ipv6Groups?_groupTexts smallAfter]
  have flat : (before.map fun group => [group]).flatten = before := by
    rw [← List.flatMap_def, List.flatMap_singleton']
  rw [flat, if_pos (by omega), show 8 - before.length - after.length = zeros by omega]

/-! #### Zeros left out -/

/-- A place and the length of the zeros from there on, of which there are at least two. -/
def IsZeroRun (groups : List Nat) (run : Nat × Nat) : Prop :=
  2 ≤ run.2 ∧ run.2 = zeroRun (groups.drop run.1)

private theorem isZeroRun_of_longestZeroRun {run : Nat × Nat}
    (longest : longestZeroRun groups = some run) : IsZeroRun groups run := by
  -- Every run that was the best so far is one.
  have best : ∀ run, longestZeroRun groups = some run → IsZeroRun groups run := by
    refine List.foldlRecOn (motive := fun best => ∀ run, best = some run → IsZeroRun groups run)
      _ _ (by simp) fun best isRun place _ run found => ?_
    dsimp only at found
    split at found
    case isTrue longer =>
      cases found
      exact ⟨longer.1, rfl⟩
    case isFalse => exact isRun run found
  exact best run longest

/-- Around the longest run of zeros are the groups before and after it. -/
theorem eq_of_longestZeroRun {place length : Nat}
    (longest : longestZeroRun groups = some (place, length)) :
    groups = groups.take place ++ List.replicate length 0 ++ groups.drop (place + length) := by
  obtain ⟨-, isRun⟩ := isZeroRun_of_longestZeroRun longest
  have zeros : (groups.drop place).takeWhile (· = 0) = List.replicate length 0 := by
    rw [List.eq_replicate_iff]
    refine ⟨isRun.symm, fun group member => ?_⟩
    simpa using List.mem_takeWhile_imp member
  have parts := List.takeWhile_append_dropWhile (p := (· = 0)) (l := groups.drop place)
  have split : groups.drop place = List.replicate length 0 ++ groups.drop (place + length) := by
    rw [← List.drop_drop, ← parts, zeros, List.drop_left' List.length_replicate]
  rw [List.append_assoc, ← split, List.take_append_drop]

/-- Eight groups read back from their text. -/
theorem parseIpv6_ipv6Text (isGroups : IsGroups groups) :
    parseIpv6 (ipv6Text groups).toList = .ok groups := by
  have parts : (ipv6Parts? (ipv6Text groups).toList).bind ipv6OfParts? = some groups := by
    rw [ipv6Text]
    split
    case h_1 =>
      have filled : groups ≠ [] := by
        rintro rfl
        exact absurd isGroups.eight (by decide)
      rw [ipv6Parts?_colonText filled, Option.bind_some, ipv6OfParts?_groupTexts isGroups]
    case h_2 place length longest =>
      have shape := eq_of_longestZeroRun longest
      have two : 2 ≤ length := (isZeroRun_of_longestZeroRun longest).1
      have lengths := congrArg List.length shape
      have text : (colonText (groups.take place) ++ "::" ++
          colonText (groups.drop (place + length))).toList =
            (colonText (groups.take place)).toList ++
              ':' :: ':' :: (colonText (groups.drop (place + length))).toList := by
        simp
      rw [isGroups.eight, List.length_append, List.length_append, List.length_replicate] at lengths
      rw [text, ipv6Parts?_gap, Option.bind_some,
        ipv6OfParts?_gap _ _ (show 0 < length by omega) lengths.symm, ← shape]
      · exact fun group member => isGroups.small group (List.mem_of_mem_take member)
      · exact fun group member => isGroups.small group (List.mem_of_mem_drop member)
  rw [parseIpv6, parts]

/-! #### What is read -/

theorem small_of_hexGroup? {text : List Char} (read : hexGroup? text = some groups) :
    ∀ group ∈ groups, group < 65536 := by
  rw [hexGroup?] at read
  split at read
  case isTrue shape =>
    cases read
    intro group member
    obtain rfl := List.mem_singleton.mp member
    calc digitsValue 16 text < powerOf 16 text.length := digitsValue_lt (Nat.le_refl 16) text
      _ ≤ powerOf 16 4 := Nat.pow_le_pow_right (by decide) shape.2.1
  case isFalse => cases read

private theorem decimalByte?_le {text : List Char} {byte : Nat}
    (read : decimalByte? text = some byte) : byte ≤ 255 := by
  unfold decimalByte? at read
  split at read
  case h_1 => cases read
  case h_2 =>
    cases read
    exact Nat.zero_le _
  case h_3 => cases read
  case h_4 =>
    split at read
    case isTrue shape =>
      cases read
      exact shape.2
    case isFalse => cases read

private theorem small_of_dottedGroups? {text : List Char}
    (read : dottedGroups? text = some groups) : ∀ group ∈ groups, group < 65536 := by
  unfold dottedGroups? at read
  split at read
  case h_1 a b c d bytes =>
    cases read
    have small : ∀ byte ∈ [a, b, c, d], byte ≤ 255 := by
      intro byte member
      obtain ⟨_, -, isByte⟩ := exists_mem_of_mapM bytes member
      exact decimalByte?_le isByte
    simp only [List.mem_cons, List.not_mem_nil, or_false, forall_eq_or_imp, forall_eq] at small ⊢
    omega
  case h_2 => cases read

private theorem small_of_ipv6Groups? {parts : List (List Char)}
    (read : ipv6Groups? parts = some groups) : ∀ group ∈ groups, group < 65536 := by
  induction parts generalizing groups with
  | nil =>
      cases read
      simp
  | cons part rest ih =>
      unfold ipv6Groups? at read
      split at read
      case h_1 shape => cases shape
      case h_2 shape =>
        split at read
        case isTrue => exact small_of_dottedGroups? read
        case isFalse => exact small_of_hexGroup? read
      case h_3 shape =>
        cases shape
        split at read
        case h_1 first others isFirst isOthers =>
          cases read
          exact List.forall_mem_append.mpr ⟨small_of_hexGroup? isFirst, ih isOthers⟩
        case h_2 => cases read

private theorem isGroups_of_ipv6OfParts? {parts : List (List Char)}
    (read : ipv6OfParts? parts = some groups) : IsGroups groups := by
  unfold ipv6OfParts? at read
  split at read
  case h_1 parts _ =>
    obtain ⟨found, isFound, whole⟩ := Option.bind_eq_some_iff.mp read
    split at whole
    case isTrue eight =>
      cases whole
      exact ⟨eight, small_of_ipv6Groups? isFound⟩
    case isFalse => cases whole
  case h_2 =>
    split at read
    case h_1 head tail isHead isTail =>
      dsimp only at read
      split at read
      case isTrue seven =>
        cases read
        refine ⟨by simp only [List.length_append, List.length_replicate]; omega, ?_⟩
        intro group member
        simp only [List.mem_append, List.mem_flatten, List.mem_replicate] at member
        rcases member with (⟨found, isFound, inFound⟩ | ⟨-, rfl⟩) | inTail
        · obtain ⟨_, -, isGroup⟩ := exists_mem_of_mapM isHead isFound
          exact small_of_hexGroup? isGroup _ inFound
        · decide
        · exact small_of_ipv6Groups? isTail _ inTail
      case isFalse => cases read
    case h_2 => cases read

/-- What is read as an address of 128 bits has eight groups. -/
theorem isGroups_of_parseIpv6 {text : List Char} (read : parseIpv6 text = .ok groups) :
    IsGroups groups := by
  unfold parseIpv6 at read
  split at read
  case h_1 isAddress =>
    cases read
    obtain ⟨_, -, whole⟩ := Option.bind_eq_some_iff.mp isAddress
    exact isGroups_of_ipv6OfParts? whole
  case h_2 => cases read

/-! ### What the texts hold -/

theorem mem_ipv4Text {address : BitVec 32} {c : Char} (member : c ∈ (ipv4Text address).toList) :
    c = '.' ∨ c.isDigit = true := by
  rw [toList_ipv4Text] at member
  refine (Text.mem_intercalate member).imp_right ?_
  rintro ⟨text, isByte, inText⟩
  exact isDigit_of_mem_byteTexts isByte c inText

theorem mem_ipv6Text {c : Char} (member : c ∈ (ipv6Text groups).toList) :
    c = ':' ∨ isHexDigit c = true := by
  have inColonText : ∀ groups, c ∈ (colonText groups).toList → c = ':' ∨ isHexDigit c = true := by
    intro groups member
    rw [toList_colonText] at member
    refine (Text.mem_intercalate member).imp_right ?_
    rintro ⟨text, isGroup, inText⟩
    exact (isHexDigit_of_mem_groupTexts isGroup).2 c inText
  rw [ipv6Text] at member
  split at member
  case h_1 => exact inColonText _ member
  case h_2 =>
    simp only [String.toList_append, List.mem_append] at member
    rcases member with (inBefore | isColon) | inAfter
    · exact inColonText _ inBefore
    · exact .inl (by simpa using isColon)
    · exact inColonText _ inAfter

end EventConsole.Url
