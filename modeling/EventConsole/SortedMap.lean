/-!
Contract: finite maps in key order.

The entries stand in strictly increasing order of their keys; the proof travels
with the map, so every map has one list of entries.
-/

namespace EventConsole

/-- Entries in strictly increasing order of keys. -/
def KeysIncrease {κ ν : Type} [Ord κ] (entries : List (κ × ν)) : Prop :=
  entries.Pairwise (fun first second => compare first.1 second.1 = .lt)

structure SortedMap (κ ν : Type) [Ord κ] where
  entries : List (κ × ν)
  increasing : KeysIncrease entries

namespace SortedMap

variable {κ ν : Type} [Ord κ]

def empty : SortedMap κ ν := ⟨[], List.Pairwise.nil⟩

instance : Inhabited (SortedMap κ ν) := ⟨empty⟩

instance [Repr κ] [Repr ν] : Repr (SortedMap κ ν) := ⟨fun map n => reprPrec map.entries n⟩

def isEmpty (map : SortedMap κ ν) : Bool := map.entries.isEmpty

def size (map : SortedMap κ ν) : Nat := map.entries.length

def keys (map : SortedMap κ ν) : List κ := map.entries.map Prod.fst

def values (map : SortedMap κ ν) : List ν := map.entries.map Prod.snd

def get? (map : SortedMap κ ν) (key : κ) : Option ν :=
  (map.entries.find? (fun entry => compare key entry.1 == .eq)).map Prod.snd

/-- Changes the value of a key, or adds it in its place. -/
def upsertEntries (key : κ) (change : Option ν → ν) : List (κ × ν) → List (κ × ν)
  | [] => [(key, change none)]
  | (k, v) :: rest =>
      match compare key k with
      | .lt => (key, change none) :: (k, v) :: rest
      | .eq => (k, change (some v)) :: rest
      | .gt => (k, v) :: upsertEntries key change rest

theorem mem_upsertEntries {key : κ} {change : Option ν → ν} {entries : List (κ × ν)}
    {entry : κ × ν} (member : entry ∈ upsertEntries key change entries) :
    entry.1 = key ∨ ∃ old ∈ entries, old.1 = entry.1 := by
  induction entries with
  | nil =>
      simp only [upsertEntries, List.mem_singleton] at member
      exact .inl (congrArg Prod.fst member)
  | cons head rest inductionHypothesis =>
      obtain ⟨k, v⟩ := head
      simp only [upsertEntries] at member
      split at member
      · rcases List.mem_cons.mp member with isNew | isOld
        · exact .inl (congrArg Prod.fst isNew)
        · exact .inr ⟨entry, isOld, rfl⟩
      · rcases List.mem_cons.mp member with isChanged | inRest
        · exact .inr ⟨(k, v), by simp, by rw [isChanged]⟩
        · exact .inr ⟨entry, List.mem_cons_of_mem _ inRest, rfl⟩
      · rcases List.mem_cons.mp member with isHead | inRest
        · exact .inr ⟨(k, v), by simp, by rw [isHead]⟩
        · rcases inductionHypothesis inRest with isKey | ⟨old, oldIn, sameKey⟩
          · exact .inl isKey
          · exact .inr ⟨old, List.mem_cons_of_mem _ oldIn, sameKey⟩

theorem increasing_upsertEntries [Std.TransOrd κ] [Std.LawfulEqOrd κ] {key : κ}
    {change : Option ν → ν} {entries : List (κ × ν)} (increasing : KeysIncrease entries) :
    KeysIncrease (upsertEntries key change entries) := by
  induction entries with
  | nil => simp [upsertEntries, KeysIncrease]
  | cons head rest inductionHypothesis =>
      obtain ⟨k, v⟩ := head
      have headLess := (List.pairwise_cons.mp increasing).1
      have restIncreases := (List.pairwise_cons.mp increasing).2
      simp only [upsertEntries]
      split
      · rename_i less
        refine List.pairwise_cons.mpr ⟨?_, increasing⟩
        intro entry member
        rcases List.mem_cons.mp member with isHead | inRest
        · rw [isHead]
          exact less
        · exact Std.TransCmp.lt_trans less (headLess entry inRest)
      · exact List.pairwise_cons.mpr ⟨headLess, restIncreases⟩
      · rename_i greater
        refine List.pairwise_cons.mpr ⟨?_, inductionHypothesis restIncreases⟩
        intro entry member
        rcases mem_upsertEntries member with isKey | ⟨old, oldIn, sameKey⟩
        · rw [isKey]
          exact Std.OrientedCmp.lt_of_gt greater
        · rw [← sameKey]
          exact headLess old oldIn

variable [Std.TransOrd κ] [Std.LawfulEqOrd κ]

def upsert (map : SortedMap κ ν) (key : κ) (change : Option ν → ν) : SortedMap κ ν :=
  ⟨upsertEntries key change map.entries, increasing_upsertEntries map.increasing⟩

def insert (map : SortedMap κ ν) (key : κ) (value : ν) : SortedMap κ ν :=
  map.upsert key (fun _ => value)

/-- Later entries of a key replace earlier ones. -/
def ofList (entries : List (κ × ν)) : SortedMap κ ν :=
  entries.foldl (fun map entry => map.insert entry.1 entry.2) empty

end SortedMap

end EventConsole
