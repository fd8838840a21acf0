import EventConsole.Proofs.Demo.Tallies
import Mathlib.Data.List.Perm.Basic

/-!
Contract: the logins listed are the newest ones of a store.

Logins are ranked by their instants, and those of one instant by their places in
the store. A store has one ranking, so that its list is determined.

Owns: the logins of a store, their ranking, and that the statistics list the
first ten of it.

Does not own: which logins the dashboard shows.
-/

namespace EventConsole

namespace Demo.Stats

open Json

/-! ### Logins -/

/-- When a record that tells of a login or of a failed one happened, however long
ago. -/
def loginStamp? (event : Value) : Option Time.Stamp :=
  if textOf "event_type" event = "user_login" ∨ textOf "event_type" event = "auth_failure" then
    stampOf? event
  else none

theorem isLogin_iff {observation : Observation} :
    isLogin observation = true ↔
      textOf "event_type" observation.event = "user_login" ∨
        textOf "event_type" observation.event = "auth_failure" := by
  simp [isLogin, field_eq_textOf]

/-- A record of a login, with its time. -/
structure Login where
  stamp : Time.Stamp
  event : Value

namespace Login

def ofEvent? (event : Value) : Option Login := (loginStamp? event).map fun stamp => ⟨stamp, event⟩

def ofObservation (observation : Observation) : Login := ⟨observation.stamp, observation.event⟩

/-- One login is as new as another, or newer. -/
def noOlder (a b : Login) : Bool := !a.stamp.instant.before b.stamp.instant

theorem ofEvent?_eq (event : Value) :
    ofEvent? event = ((observation? event).filter isLogin).map ofObservation := by
  rw [observation?_eq, ofEvent?, loginStamp?]
  cases stampOf? event with
  | none => simp
  | some stamp =>
      rw [Option.map_some, Option.filter_some]
      split
      case isTrue login =>
        rw [if_pos (isLogin_iff.mpr login)]
        rfl
      case isFalse other =>
        rw [if_neg fun login => other (isLogin_iff.mp login)]
        rfl

private theorem noOlder_trans (a b c : Login) (first : noOlder a b = true)
    (second : noOlder b c = true) : noOlder a c = true := by
  simp only [noOlder, Bool.not_eq_true'] at *
  exact Time.Instant.not_before_trans first second

private theorem noOlder_total (a b : Login) : (noOlder a b || noOlder b a) = true := by
  cases older : a.stamp.instant.before b.stamp.instant with
  | false => simp [noOlder, older]
  | true => simp [noOlder, Time.Instant.not_before_of_before older]

end Login

/-- The logins of a store, in its order. -/
def logins (events : List Value) : List Login := events.filterMap Login.ofEvent?

theorem logins_eq (events : List Value) :
    logins events = ((observations events).filter isLogin).map Login.ofObservation := by
  rw [observations, List.filter_filterMap, List.map_filterMap, logins]
  exact congrArg (List.filterMap · events) (funext Login.ofEvent?_eq)

private theorem length_logins (events : List Value) :
    (logins events).length = events.countP fun event => (loginStamp? event).isSome := by
  rw [logins, List.length_filterMap_eq_countP]
  simp only [Login.ofEvent?, Option.isSome_map]

private theorem map_event_logins_sublist (events : List Value) :
    ((logins events).map Login.event).Sublist events := by
  have chosen : (fun event => (Login.ofEvent? event).map Login.event) =
      Option.guard fun event => (loginStamp? event).isSome := by
    funext event
    unfold Login.ofEvent? Option.guard
    cases found : loginStamp? event <;> simp [found]
  rw [logins, List.map_filterMap, chosen, List.filterMap_eq_filter]
  exact List.filter_sublist

/-! ### Rankings -/

/-- A login with its place among all is ranked before another: it is newer, or as
new and its place is further ahead. -/
def RankedBefore (a b : Login × Nat) : Prop :=
  b.1.stamp.instant.before a.1.stamp.instant = true ∨
    a.1.stamp.instant = b.1.stamp.instant ∧ a.2 < b.2

/-- All logins with their places, in the order of their ranks. -/
structure Ranks (logins : List Login) (ranking : List (Login × Nat)) : Prop where
  all : ranking.Perm logins.zipIdx
  ordered : ranking.Pairwise RankedBefore

theorem RankedBefore.noOlder {a b : Login × Nat} (before : RankedBefore a b) :
    a.1.stamp.instant.before b.1.stamp.instant = false := by
  rcases before with newer | ⟨same, _⟩
  · exact Time.Instant.not_before_of_before newer
  · rw [same]
    exact Time.Instant.not_before_self _

private theorem RankedBefore.asymm {a b : Login × Nat} (before : RankedBefore a b)
    (after : RankedBefore b a) : False := by
  rcases before with newer | ⟨same, ahead⟩
  · exact Bool.false_ne_true (after.noOlder.symm.trans newer)
  · rcases after with older | ⟨_, behind⟩
    · rw [same, Time.Instant.not_before_self] at older
      exact Bool.false_ne_true older
    · exact Nat.lt_asymm ahead behind

theorem Ranks.unique {logins : List Login} {ranking other : List (Login × Nat)}
    (ranks : Ranks logins ranking) (otherRanks : Ranks logins other) : ranking = other :=
  (ranks.all.trans otherRanks.all.symm).eq_of_pairwise
    (fun _ _ _ _ before after => (before.asymm after).elim) ranks.ordered otherRanks.ordered

private theorem rankedBefore_of_zipIdxLE {a b : Login × Nat} (places : a.2 ≠ b.2)
    (le : List.zipIdxLE Login.noOlder a b = true) : RankedBefore a b := by
  unfold List.zipIdxLE at le
  split at le
  case isFalse => contradiction
  case isTrue noOlder =>
    split at le
    case isTrue noNewer =>
      simp only [Login.noOlder, Bool.not_eq_true'] at noOlder noNewer
      exact .inr ⟨Time.Instant.eq_of_not_before noOlder noNewer,
        Nat.lt_of_le_of_ne (of_decide_eq_true le) places⟩
    case isFalse newer =>
      simp only [Login.noOlder, Bool.not_eq_true', Bool.not_eq_false] at newer
      exact .inl newer

/-- Sorting ranks the logins, since ties are left in their order. -/
theorem exists_ranks_mergeSort (logins : List Login) :
    ∃ ranking, Ranks logins ranking ∧ ranking.map Prod.fst = logins.mergeSort Login.noOlder := by
  have perm := List.mergeSort_perm logins.zipIdx (List.zipIdxLE Login.noOlder)
  refine ⟨logins.zipIdx.mergeSort (List.zipIdxLE Login.noOlder), ⟨perm, ?_⟩,
    List.mergeSort_zipIdx⟩
  have sorted := List.pairwise_mergeSort (List.zipIdxLE_trans Login.noOlder_trans)
    (List.zipIdxLE_total Login.noOlder_total) logins.zipIdx
  have distinct : (logins.zipIdx.mergeSort (List.zipIdxLE Login.noOlder)).Pairwise
      fun a b => a.2 ≠ b.2 := by
    have places : (logins.zipIdx.map Prod.snd).Nodup := by
      rw [List.zipIdx_map_snd]
      exact List.nodup_range'
    exact List.pairwise_map.mp ((perm.map Prod.snd).nodup_iff.mpr places)
  exact distinct.imp₂ (fun _ _ => rankedBefore_of_zipIdxLE) sorted

/-! ### The logins listed -/

theorem newestLogins_eq (events : List Value) :
    newestLogins (observations events) =
      (((logins events).mergeSort Login.noOlder).take 10).map Login.event := by
  have sorted : (((observations events).filter isLogin).mergeSort notEarlier).map
      Login.ofObservation = (logins events).mergeSort Login.noOlder := by
    rw [logins_eq]
    exact List.map_mergeSort fun _ _ _ _ => rfl
  rw [← sorted, ← List.map_take, List.map_map]
  rfl

/-- A list holds the first ten of a ranking of the logins of a store, or all of
fewer: none left out is newer than one listed, and nothing is listed more often
than it stands in the store. -/
structure ListsNewest (events : List Value) (ranking : List (Login × Nat)) (listed : List Value) :
    Prop where
  first : listed = (ranking.take 10).map fun ranked => ranked.1.event
  count : listed.length = min 10 (events.countP fun event => (loginStamp? event).isSome)
  newest : ∀ kept ∈ ranking.take 10, ∀ omitted ∈ ranking.drop 10,
    kept.1.stamp.instant.before omitted.1.stamp.instant = false
  once : listed.Subperm events

private theorem listsNewest_take {events : List Value} {ranking : List (Login × Nat)}
    (ranks : Ranks (logins events) ranking) :
    ListsNewest events ranking ((ranking.take 10).map fun ranked => ranked.1.event) where
  first := rfl
  count := by
    rw [List.length_map, List.length_take, ranks.all.length_eq, List.length_zipIdx, length_logins]
  newest := by
    have ordered := ranks.ordered
    rw [← List.take_append_drop 10 ranking, List.pairwise_append] at ordered
    intro kept isKept omitted isOmitted
    exact (ordered.2.2 kept isKept omitted isOmitted).noOlder
  once := by
    have whole : (ranking.map fun ranked => ranked.1.event).Perm
        ((logins events).map Login.event) := by
      have perm := (ranks.all.map Prod.fst).map Login.event
      rwa [List.zipIdx_map_fst, List.map_map] at perm
    exact ((List.take_sublist 10 ranking).map _).subperm.trans
      (whole.subperm.trans (map_event_logins_sublist events).subperm)

/-- The logins of a store have one ranking, and the statistics list the first ten
of it, whatever the time. -/
theorem listsNewest_lastLogins (events : List Value) (now : Time.Instant) :
    ∃ ranking, Ranks (logins events) ranking ∧
      (∀ other, Ranks (logins events) other → other = ranking) ∧
      ListsNewest events ranking (compute events now).lastLogins := by
  obtain ⟨ranking, ranks, sorted⟩ := exists_ranks_mergeSort (logins events)
  refine ⟨ranking, ranks, fun _ otherRanks => otherRanks.unique ranks, ?_⟩
  have listed : (compute events now).lastLogins =
      (ranking.take 10).map fun ranked => ranked.1.event := by
    show newestLogins (observations events) = _
    rw [newestLogins_eq, ← sorted, ← List.map_take, List.map_map]
    rfl
  rw [listed]
  exact listsNewest_take ranks

-- Two logins of one instant, told on two clocks, stay in their order ahead of an older one.
example :
    let told := ["2024-05-01T09:00:00Z", "2024-05-01T09:30:00Z", "2024-05-01T11:30:00+02:00"]
    (compute (told.map fun time => .object [("agent_id", .string "web-1"),
        ("event_type", .string "user_login"), ("timestamp", .string time)])
      twoClocksNow).lastLogins.map (textOf "timestamp") =
      ["2024-05-01T09:30:00Z", "2024-05-01T11:30:00+02:00", "2024-05-01T09:00:00Z"] := by
  cbv

end Demo.Stats

end EventConsole
