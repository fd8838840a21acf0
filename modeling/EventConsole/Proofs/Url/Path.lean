import EventConsole.Proofs.Text.Pieces
import EventConsole.Proofs.Url.PercentEncoding
import EventConsole.Url.Parse
import EventConsole.Url.Path
import Mathlib.Data.List.Induction
import Mathlib.Data.List.TakeWhile

/-!
Contract: the path of a server reads back from its text.

The segments of a path that was read hold no separators, nothing that a path
encodes, and are no dots. A list of such segments is what its text is read as.

Owns: plain segments, what splitting and resolving leave, and slashes at the end
of a text.
-/

namespace EventConsole.Url

namespace Path

/-- A segment that stays as it is in the path of a server. -/
structure IsPlain (segment : String) : Prop where
  encoded : IsEncoded encodedInPath segment.toList
  noSeparator : ∀ c ∈ segment.toList, isSeparator true c = false
  noDot : isDot segment = false
  noDoubleDot : isDoubleDot segment = false

instance (segment : String) : Decidable (IsPlain segment) :=
  decidable_of_iff
    (IsEncoded encodedInPath segment.toList ∧
      segment.toList.all (fun c => decide (isSeparator true c = false)) ∧
      isDot segment = false ∧ isDoubleDot segment = false)
    ⟨fun ⟨encoded, noSeparator, noDot, noDoubleDot⟩ =>
        ⟨encoded, List.all_iff_forall_prop.mp noSeparator, noDot, noDoubleDot⟩,
      fun plain =>
        ⟨plain.encoded, List.all_iff_forall_prop.mpr plain.noSeparator, plain.noDot,
          plain.noDoubleDot⟩⟩

variable {segment : String} {parts kept : List String}

/-! ### The text of segments -/

theorem toList_segmentsText (parts : List String) :
    (segmentsText parts).toList = parts.flatMap fun segment => '/' :: segment.toList := by
  simp [segmentsText, String.toList_join, List.flatMap_map]

theorem segmentsText_append (parts others : List String) :
    segmentsText (parts ++ others) = segmentsText parts ++ segmentsText others := by
  simp [segmentsText, String.join_append]

theorem mem_segmentsText {c : Char} (member : c ∈ (segmentsText parts).toList) :
    c = '/' ∨ ∃ segment ∈ parts, c ∈ segment.toList := by
  rw [toList_segmentsText, List.mem_flatMap] at member
  obtain ⟨segment, inParts, inSegment⟩ := member
  rcases List.mem_cons.mp inSegment with isSlash | inSegment
  · exact .inl isSlash
  · exact .inr ⟨segment, inParts, inSegment⟩

/-! ### Splitting -/

theorem encodeSegment_of_isPlain (plain : IsPlain segment) :
    encodeSegment segment.toList = segment := by
  rw [encodeSegment, percentEncode_of_isEncoded plain.encoded, String.ofList_toList]

/-- The text of segments splits into these segments. -/
theorem split_segmentsText (first : String) (parts : List String)
    (plain : ∀ segment ∈ first :: parts, IsPlain segment) :
    split true (first.toList ++ (segmentsText parts).toList) = first :: parts := by
  induction parts generalizing first with
  | nil =>
      have plainFirst := plain first List.mem_cons_self
      rw [split, show (segmentsText []).toList = [] from rfl, List.append_nil,
        List.splitOnP_eq_singleton plainFirst.noSeparator, List.map_singleton,
        encodeSegment_of_isPlain plainFirst]
  | cons second rest ih =>
      obtain ⟨plainFirst, plainRest⟩ := List.forall_mem_cons.mp plain
      have follows : (segmentsText (second :: rest)).toList =
          '/' :: (second.toList ++ (segmentsText rest).toList) := by
        simp [toList_segmentsText]
      rw [split, follows, List.splitOnP_append_cons_of_forall_mem plainFirst.noSeparator '/' rfl,
        List.map_cons, encodeSegment_of_isPlain plainFirst, ← split, ih second plainRest]

/-- Splitting leaves encoded segments without separators. -/
theorem encoded_of_mem_split {text : List Char} (member : segment ∈ split true text) :
    IsEncoded encodedInPath segment.toList ∧
      ∀ c ∈ segment.toList, isSeparator true c = false := by
  have keepsMarks : ∀ c ∈ encodingMarks, encodedInPath c = false :=
    List.all_iff_forall_prop.mp (by decide)
  have marks : ∀ c ∈ encodingMarks, isSeparator true c = false :=
    List.all_iff_forall_prop.mp (by decide)
  obtain ⟨piece, inText, rfl⟩ := List.mem_map.mp member
  rw [encodeSegment, String.toList_ofList]
  refine ⟨isEncoded_percentEncode keepsMarks piece, fun c inSegment => ?_⟩
  rcases mem_percentEncode inSegment with ⟨inPiece, -⟩ | isMark
  · exact Text.not_of_mem_splitOnP inText c inPiece
  · exact marks c isMark

/-! ### Dots -/

theorem mem_parent (member : segment ∈ parent kept) : segment ∈ kept := by
  cases kept with
  | nil => exact member
  | cons last before =>
      rw [parent] at member
      split at member
      case isTrue => exact member
      case isFalse => exact List.mem_cons_of_mem _ member

/-- What is kept after one more segment was kept before, or is that segment and no dots. -/
theorem mem_keep {next : String} (member : segment ∈ keep kept next) :
    segment ∈ kept ∨ segment = next ∧ isDot next = false ∧ isDoubleDot next = false := by
  rw [keep] at member
  split at member
  case isTrue => exact .inl (mem_parent member)
  case isFalse noDoubleDot =>
    split at member
    case isTrue => exact .inl member
    case isFalse noDot =>
      rcases List.mem_cons.mp member with same | earlier
      · exact .inr ⟨same, by simpa using noDot, by simpa using noDoubleDot⟩
      · exact .inl earlier

private theorem mem_foldl_keep (member : segment ∈ parts.foldl keep kept) :
    segment ∈ kept ∨ segment ∈ parts ∧ isDot segment = false ∧ isDoubleDot segment = false := by
  induction parts generalizing kept with
  | nil => exact .inl member
  | cons next rest ih =>
      rcases ih member with before | ⟨later, noDots⟩
      · rcases mem_keep before with earlier | ⟨rfl, noDots⟩
        · exact .inl earlier
        · exact .inr ⟨List.mem_cons_self, noDots⟩
      · exact .inr ⟨List.mem_cons_of_mem _ later, noDots⟩

/-- Resolving leaves segments that are no dots, and empty ones. -/
theorem mem_resolve (member : segment ∈ resolve parts) :
    segment = "" ∨ segment ∈ parts ∧ isDot segment = false ∧ isDoubleDot segment = false := by
  have inKept : segment = "" ∨ segment ∈ parts.foldl keep [] := by
    unfold resolve finish at member
    split at member
    case h_1 => exact .inr (List.mem_reverse.mp member)
    case h_2 =>
      have member := List.mem_reverse.mp member
      split at member
      case isTrue => exact List.mem_cons.mp member
      case isFalse => exact .inr member
  refine inKept.imp_right fun inKept => ?_
  exact (mem_foldl_keep inKept).resolve_left List.not_mem_nil

private theorem foldl_keep_of_isPlain (plain : ∀ segment ∈ parts, IsPlain segment) :
    parts.foldl keep kept = parts.reverse ++ kept := by
  induction parts generalizing kept with
  | nil => rfl
  | cons next rest ih =>
      obtain ⟨plainNext, plainRest⟩ := List.forall_mem_cons.mp plain
      have one : keep kept next = next :: kept := by
        simp [keep, plainNext.noDot, plainNext.noDoubleDot]
      rw [List.foldl_cons, one, ih plainRest, List.reverse_cons, List.append_assoc,
        List.singleton_append]

/-- Resolving keeps plain segments. -/
theorem resolve_of_isPlain (plain : ∀ segment ∈ parts, IsPlain segment) :
    resolve parts = parts := by
  rw [resolve, foldl_keep_of_isPlain plain, List.append_nil]
  unfold finish
  split
  case h_1 => exact List.reverse_reverse parts
  case h_2 last isLast =>
    have plainLast := plain last (List.mem_of_getLast? isLast)
    simp [plainLast.noDot, plainLast.noDoubleDot]

/-! ### Reading -/

/-- The path of a server is a list of plain segments. -/
theorem isPlain_of_parse (text : List Char) :
    ∃ parts, parse true text = .segments parts ∧ ∀ segment ∈ parts, IsPlain segment := by
  cases text with
  | nil => exact ⟨[""], rfl, by simpa using (by decide : IsPlain "")⟩
  | cons c rest =>
      refine ⟨_, rfl, fun segment member => ?_⟩
      rcases mem_resolve member with rfl | ⟨inSplit, noDot, noDoubleDot⟩
      · exact (by decide : IsPlain "")
      · obtain ⟨encoded, noSeparator⟩ := encoded_of_mem_split inSplit
        exact ⟨encoded, noSeparator, noDot, noDoubleDot⟩

/-- The text of plain segments is read as these segments. -/
theorem parse_segmentsText (filled : parts ≠ []) (plain : ∀ segment ∈ parts, IsPlain segment) :
    parse true (segmentsText parts).toList = .segments parts := by
  obtain ⟨first, rest, rfl⟩ := List.exists_cons_of_ne_nil filled
  have text : (segmentsText (first :: rest)).toList =
      '/' :: (first.toList ++ (segmentsText rest).toList) := by
    simp [toList_segmentsText]
  rw [text, parse, if_pos (by rfl), split_segmentsText first rest plain, resolve_of_isPlain plain]

end Path

/-! ### Slashes at the end -/

theorem toList_dropSlashes (text : String) :
    (dropSlashes text).toList = (text.toList.reverse.dropWhile (· = '/')).reverse := by
  rw [dropSlashes, String.toList_ofList]

/-- Slashes at the end are dropped from the end only. -/
theorem dropSlashes_append {before : String} (noSlash : before.toList.getLast? ≠ some '/')
    (text : String) : dropSlashes (before ++ text) = before ++ dropSlashes text := by
  have keepsBefore : before.toList.reverse.dropWhile (· = '/') = before.toList.reverse := by
    rw [List.dropWhile_eq_self_iff]
    intro filled isSlash
    apply noSlash
    rw [← List.head?_reverse, List.head?_eq_getElem?, List.getElem?_eq_getElem filled]
    simpa using isSlash
  apply String.toList_inj.mp
  rw [toList_dropSlashes, String.toList_append, String.toList_append, toList_dropSlashes,
    List.reverse_append, List.dropWhile_append]
  split
  case isTrue allSlashes =>
    rw [List.isEmpty_iff] at allSlashes
    rw [keepsBefore, allSlashes, List.reverse_reverse, List.reverse_nil, List.append_nil]
  case isFalse => rw [List.reverse_append, List.reverse_reverse]

/-- Without its slashes at the end, the text of a path is that of fewer segments. -/
theorem dropSlashes_segmentsText {parts : List String}
    (plain : ∀ segment ∈ parts, Path.IsPlain segment) :
    ∃ kept, (∀ segment ∈ kept, Path.IsPlain segment) ∧
      dropSlashes (Path.segmentsText parts) = Path.segmentsText kept := by
  induction parts using List.reverseRecOn with
  | nil => exact ⟨[], plain, rfl⟩
  | append_singleton before last ih =>
      by_cases empty : last = ""
      case pos =>
        obtain ⟨kept, plainKept, text⟩ :=
          ih fun segment member => plain segment (List.mem_append_left _ member)
        refine ⟨kept, plainKept, ?_⟩
        rw [← text, empty, Path.segmentsText_append]
        apply String.toList_inj.mp
        simp [toList_dropSlashes, Path.toList_segmentsText]
      case neg =>
        refine ⟨before ++ [last], plain, ?_⟩
        have noSlash : (Path.segmentsText (before ++ [last])).toList.getLast? ≠ some '/' := by
          intro isSlash
          have plainLast := plain last (List.mem_append_right _ List.mem_cons_self)
          have filled : last.toList ≠ [] := by simpa using empty
          rw [Path.toList_segmentsText, List.flatMap_append, List.flatMap_singleton,
            List.getLast?_append, List.getLast?_cons_of_ne_nil filled] at isSlash
          rw [List.getLast?_eq_some_getLast filled, Option.some_or, Option.some.injEq] at isSlash
          have inLast := List.getLast_mem filled
          rw [isSlash] at inLast
          exact absurd (plainLast.noSeparator _ inLast) (by decide)
        have drops := dropSlashes_append noSlash ""
        rwa [String.append_empty, show dropSlashes "" = "" from rfl, String.append_empty] at drops

end EventConsole.Url
