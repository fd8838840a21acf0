import EventConsole.SortedMap
import Mathlib.Data.List.Nodup
import Mathlib.Data.List.Perm.Basic

/-!
Contract: looking a key up after a map has changed, and maps against their
entries.

Owns: one equation for the changed key and one for all others, for `upsert` and
for `insert`; that a map is given by its entries and by its values, and is looked
up among its entries; and which of the entries that a map was made from counts.
-/

namespace EventConsole.SortedMap

variable {κ ν : Type} [Ord κ]

/-! ### Entries -/

/-- The value under a key in a list of entries. -/
def valueIn (key : κ) (entries : List (κ × ν)) : Option ν :=
  (entries.find? (fun entry => compare key entry.1 == .eq)).map Prod.snd

theorem valueIn_cons (key : κ) (entry : κ × ν) (rest : List (κ × ν)) :
    valueIn key (entry :: rest) =
      if compare key entry.1 = .eq then some entry.2 else valueIn key rest := by
  by_cases found : compare key entry.1 = .eq
  · simp [valueIn, found]
  · simp [valueIn, found]

/-- A key before the first one has no value. -/
theorem valueIn_of_before {key : κ} {entries : List (κ × ν)}
    (before : ∀ entry ∈ entries, compare key entry.1 = .lt) : valueIn key entries = none := by
  induction entries with
  | nil => rfl
  | cons head rest inductionHypothesis =>
      have headLess : compare key head.1 = .lt := before head (by simp)
      rw [valueIn_cons, if_neg (by simp [headLess])]
      exact inductionHypothesis fun entry member => before entry (List.mem_cons_of_mem _ member)

private theorem valueIn_append (key : κ) (entries more : List (κ × ν)) :
    valueIn key (entries ++ more) = (valueIn key entries).or (valueIn key more) := by
  induction entries with
  | nil => rfl
  | cons entry rest inductionHypothesis =>
      rw [List.cons_append, valueIn_cons, valueIn_cons, inductionHypothesis]
      split <;> rfl

theorem eq_of_entries {map other : SortedMap κ ν} (same : map.entries = other.entries) :
    map = other := by
  cases map
  cases other
  congr

/-- A key after all others goes to the end. -/
theorem upsertEntries_of_after [Std.OrientedOrd κ] {key : κ} {change : Option ν → ν}
    {entries : List (κ × ν)} (after : ∀ entry ∈ entries, compare entry.1 key = .lt) :
    upsertEntries key change entries = entries ++ [(key, change none)] := by
  induction entries with
  | nil => rfl
  | cons head rest inductionHypothesis =>
      obtain ⟨k, v⟩ := head
      have greater : compare key k = .gt := Std.OrientedCmp.gt_of_lt (after (k, v) (by simp))
      rw [upsertEntries, greater]
      exact congrArg ((k, v) :: ·)
        (inductionHypothesis fun entry member => after entry (List.mem_cons_of_mem _ member))

/-! ### Values -/

/-- A map with all its values replaced. -/
def mapValues {μ : Type} (change : ν → μ) (map : SortedMap κ ν) : SortedMap κ μ :=
  ⟨map.entries.map fun entry => (entry.1, change entry.2), by
    rw [KeysIncrease, List.pairwise_map]
    exact map.increasing⟩

theorem keys_mapValues {μ : Type} (change : ν → μ) (map : SortedMap κ ν) :
    (map.mapValues change).keys = map.keys := by
  simp [mapValues, keys, Function.comp_def]

theorem values_mapValues {μ : Type} (change : ν → μ) (map : SortedMap κ ν) :
    (map.mapValues change).values = map.values.map change := by
  simp [mapValues, values, Function.comp_def]

theorem isEmpty_mapValues {μ : Type} (change : ν → μ) (map : SortedMap κ ν) :
    (map.mapValues change).isEmpty = map.isEmpty := by
  simp [mapValues, isEmpty]

theorem keys_increase (map : SortedMap κ ν) :
    map.keys.Pairwise fun first second => compare first second = .lt :=
  List.pairwise_map.mpr map.increasing

section Lawful

variable [Std.LawfulEqOrd κ]

private theorem valueIn_upsertEntries_of_ne {key other : κ} {change : Option ν → ν}
    {entries : List (κ × ν)} (different : other ≠ key) :
    valueIn other (upsertEntries key change entries) = valueIn other entries := by
  have notEqual : compare other key ≠ .eq := fun equal =>
    different (Std.LawfulEqOrd.eq_of_compare equal)
  induction entries with
  | nil => simp [upsertEntries, valueIn, notEqual]
  | cons head rest inductionHypothesis =>
      obtain ⟨k, v⟩ := head
      simp only [upsertEntries]
      split
      · rw [valueIn_cons, if_neg notEqual]
      · rename_i same
        have isKey : key = k := Std.LawfulEqOrd.eq_of_compare same
        subst isKey
        rw [valueIn_cons, valueIn_cons, if_neg notEqual, if_neg notEqual]
      · rw [valueIn_cons, valueIn_cons, inductionHypothesis]

theorem valueIn_eq_some_iff {entries : List (κ × ν)} (increasing : KeysIncrease entries) {key : κ}
    {value : ν} : valueIn key entries = some value ↔ (key, value) ∈ entries := by
  induction entries with
  | nil => simp [valueIn]
  | cons head rest inductionHypothesis =>
      obtain ⟨headLess, restIncreases⟩ := List.pairwise_cons.mp increasing
      rw [valueIn_cons, List.mem_cons]
      split
      case isTrue same =>
        have isKey : key = head.1 := Std.LawfulEqOrd.eq_of_compare same
        have notLater : (key, value) ∉ rest := by
          intro later
          have self : compare key key = .eq := Std.ReflCmp.compare_self
          have less := headLess (key, value) later
          rw [← isKey, self] at less
          contradiction
        rw [Option.some.injEq, or_iff_left notLater, Prod.ext_iff, and_iff_right isKey]
        exact eq_comm
      case isFalse different =>
        have notHead : (key, value) ≠ head := fun isHead =>
          different (by rw [← isHead]; exact Std.ReflCmp.compare_self)
        rw [or_iff_right notHead]
        exact inductionHypothesis restIncreases

theorem get?_eq_some_iff {map : SortedMap κ ν} {key : κ} {value : ν} :
    map.get? key = some value ↔ (key, value) ∈ map.entries :=
  valueIn_eq_some_iff map.increasing

theorem mem_keys_iff {map : SortedMap κ ν} {key : κ} :
    key ∈ map.keys ↔ (map.get? key).isSome = true := by
  rw [Option.isSome_iff_exists, keys, List.mem_map]
  constructor
  · rintro ⟨entry, member, rfl⟩
    exact ⟨entry.2, get?_eq_some_iff.mpr member⟩
  · rintro ⟨value, isValue⟩
    exact ⟨(key, value), get?_eq_some_iff.mp isValue, rfl⟩

theorem nodup_keys (map : SortedMap κ ν) : map.keys.Nodup := by
  refine map.keys_increase.imp fun {first second} less same => ?_
  have self : compare second second = .eq := Std.ReflCmp.compare_self
  rw [same, self] at less
  contradiction

/-- The values are those of the keys, in their order. -/
theorem values_eq_map_keys {map : SortedMap κ ν} {value : κ → ν}
    (isValue : ∀ key v, map.get? key = some v → v = value key) :
    map.values = map.keys.map value := by
  rw [values, keys, List.map_map]
  refine List.map_congr_left fun entry member => ?_
  exact isValue entry.1 entry.2 (get?_eq_some_iff.mpr member)

/-- The value under a key in reversed entries is that of its last entry. -/
theorem valueIn_reverse_eq_some_iff {key : κ} {value : ν} {entries : List (κ × ν)} :
    valueIn key entries.reverse = some value ↔
      ∃ before after, entries = before ++ (key, value) :: after ∧
        ∀ entry ∈ after, entry.1 ≠ key := by
  have isKey (entry : κ × ν) : (compare key entry.1 == .eq) = true ↔ entry.1 = key := by
    rw [beq_iff_eq, Std.LawfulEqOrd.compare_eq_iff_eq, eq_comm]
  rw [valueIn, Option.map_eq_some_iff]
  constructor
  · rintro ⟨⟨found, _⟩, isFound, rfl⟩
    obtain ⟨same, after, before, split, notAfter⟩ := List.find?_eq_some_iff_append.mp isFound
    obtain rfl : found = key := (isKey _).mp same
    refine ⟨before.reverse, after.reverse, ?_, fun entry member same => ?_⟩
    · calc entries = entries.reverse.reverse := entries.reverse_reverse.symm
        _ = before.reverse ++ (found, _) :: after.reverse := by
            rw [split, List.reverse_append, List.reverse_cons, List.append_assoc,
              List.singleton_append]
    · have notKey := notAfter entry (List.mem_reverse.mp member)
      rw [(isKey entry).mpr same] at notKey
      contradiction
  · rintro ⟨before, after, rfl, notAfter⟩
    refine ⟨(key, value), List.find?_eq_some_iff_append.mpr ⟨(isKey _).mpr rfl, after.reverse,
      before.reverse, ?_, fun entry member => ?_⟩, rfl⟩
    · rw [List.reverse_append, List.reverse_cons, List.append_assoc, List.singleton_append]
    · rw [Bool.not_eq_true', ← Bool.not_eq_true, isKey]
      exact notAfter entry (List.mem_reverse.mp member)

variable [Std.TransOrd κ]

private theorem valueIn_upsertEntries_self {key : κ} {change : Option ν → ν}
    {entries : List (κ × ν)} (increasing : KeysIncrease entries) :
    valueIn key (upsertEntries key change entries) = some (change (valueIn key entries)) := by
  induction entries with
  | nil => simp [upsertEntries, valueIn]
  | cons head rest inductionHypothesis =>
      obtain ⟨k, v⟩ := head
      have headLess := (List.pairwise_cons.mp increasing).1
      simp only [upsertEntries]
      split
      · rename_i less
        have absent : valueIn key ((k, v) :: rest) = none := by
          apply valueIn_of_before
          intro entry member
          rcases List.mem_cons.mp member with isHead | inRest
          · rw [isHead]
            exact less
          · exact Std.TransCmp.lt_trans less (headLess entry inRest)
        rw [absent, valueIn_cons, if_pos Std.ReflCmp.compare_self]
      · rename_i same
        rw [valueIn_cons, valueIn_cons, if_pos same, if_pos same]
      · rename_i greater
        rw [valueIn_cons, valueIn_cons, if_neg (by simp [greater]), if_neg (by simp [greater])]
        exact inductionHypothesis (List.pairwise_cons.mp increasing).2

/-! ### Maps -/

theorem get?_upsert_self (map : SortedMap κ ν) (key : κ) (change : Option ν → ν) :
    (map.upsert key change).get? key = some (change (map.get? key)) :=
  valueIn_upsertEntries_self map.increasing

theorem get?_upsert_of_ne (map : SortedMap κ ν) {key other : κ} (change : Option ν → ν)
    (different : other ≠ key) : (map.upsert key change).get? other = map.get? other :=
  valueIn_upsertEntries_of_ne different

@[simp] theorem get?_insert_self (map : SortedMap κ ν) (key : κ) (value : ν) :
    (map.insert key value).get? key = some value :=
  map.get?_upsert_self key _

theorem get?_insert_of_ne (map : SortedMap κ ν) {key other : κ} (value : ν)
    (different : other ≠ key) : (map.insert key value).get? other = map.get? other :=
  map.get?_upsert_of_ne _ different

/-- A map is given by the value of every key. -/
theorem eq_of_get? {map other : SortedMap κ ν} (same : ∀ key, map.get? key = other.get? key) :
    map = other := by
  have distinct (any : SortedMap κ ν) : any.entries.Nodup :=
    List.Nodup.of_map Prod.fst any.nodup_keys
  have sameEntries (entry : κ × ν) : entry ∈ map.entries ↔ entry ∈ other.entries := by
    obtain ⟨key, value⟩ := entry
    rw [← get?_eq_some_iff, ← get?_eq_some_iff, same]
  have perm : map.entries.Perm other.entries :=
    (List.perm_ext_iff_of_nodup (distinct map) (distinct other)).mpr sameEntries
  apply eq_of_entries
  refine perm.eq_of_pairwise (fun first second _ _ less more => ?_) map.increasing other.increasing
  have both : compare first.1 first.1 = .lt := Std.TransCmp.lt_trans less more
  have self : compare first.1 first.1 = .eq := Std.ReflCmp.compare_self
  rw [self] at both
  contradiction

/-! ### Maps against entries -/

theorem entries_foldl_insert (map : SortedMap κ ν) {entries : List (κ × ν)}
    (increasing : KeysIncrease (map.entries ++ entries)) :
    (entries.foldl (fun map entry => map.insert entry.1 entry.2) map).entries =
      map.entries ++ entries := by
  induction entries generalizing map with
  | nil => simp
  | cons entry rest inductionHypothesis =>
      have after : ∀ old ∈ map.entries, compare old.1 entry.1 = .lt := fun old member =>
        (List.pairwise_append.mp increasing).2.2 old member entry (by simp)
      have inserted : (map.insert entry.1 entry.2).entries = map.entries ++ [entry] :=
        upsertEntries_of_after after
      rw [List.foldl_cons, inductionHypothesis _ (by rw [inserted]; simpa using increasing),
        inserted, List.append_assoc, List.singleton_append]

theorem entries_ofList {entries : List (κ × ν)} (increasing : KeysIncrease entries) :
    (ofList entries).entries = entries :=
  entries_foldl_insert empty increasing

theorem get?_foldl_insert (map : SortedMap κ ν) (entries : List (κ × ν)) (key : κ) :
    (entries.foldl (fun map entry => map.insert entry.1 entry.2) map).get? key =
      (valueIn key entries.reverse).or (map.get? key) := by
  induction entries generalizing map with
  | nil => rfl
  | cons entry rest inductionHypothesis =>
      rw [List.foldl_cons, inductionHypothesis, List.reverse_cons, valueIn_append, Option.or_assoc,
        valueIn_cons]
      congr 1
      split
      case isTrue same =>
        rw [← Std.LawfulEqOrd.eq_of_compare same, get?_insert_self]
        rfl
      case isFalse different =>
        have other : key ≠ entry.1 := fun same =>
          different (by rw [same]; exact Std.ReflCmp.compare_self)
        rw [get?_insert_of_ne _ _ other]
        rfl

/-- Of several entries of a key the last counts. -/
theorem get?_ofList (entries : List (κ × ν)) (key : κ) :
    (ofList entries).get? key = valueIn key entries.reverse := by
  rw [ofList, get?_foldl_insert]
  exact Option.or_none

end Lawful

end EventConsole.SortedMap
