import EventConsole.Demo.Stats
import EventConsole.Proofs.SortedMap
import EventConsole.Proofs.Time.Instant
import Mathlib.Data.List.Induction

/-!
Contract: what the statistics of a store say about its events.

Both kinds of aggregate are taken from the end: one more event counts once under
its key, and is the last sighting of its agent unless an older one was later.

Owns: the counts of keys and their total, the last sighting of an agent, and
the observed events.
-/

namespace EventConsole

namespace Demo.Stats

open Json

/-! ### Counters -/

section Counters

variable {κ : Type} [Ord κ] [Std.TransOrd κ] [Std.LawfulEqOrd κ]

theorem countKeys_concat (keys : List κ) (key : κ) :
    countKeys (keys ++ [key]) = addOne (countKeys keys) key :=
  List.foldl_append

variable [DecidableEq κ]

/-- The counter of a key says how often it occurs; keys that do not have none. -/
theorem get?_countKeys (keys : List κ) (key : κ) :
    (countKeys keys).get? key = if key ∈ keys then some (keys.count key) else none := by
  induction keys using List.reverseRecOn with
  | nil => rfl
  | append_singleton keys last inductionHypothesis =>
      rw [countKeys_concat, addOne]
      by_cases same : key = last
      · subst same
        rw [SortedMap.get?_upsert_self, inductionHypothesis]
        by_cases before : key ∈ keys
        · simp [before]
        · simp [before, List.count_eq_zero_of_not_mem before]
      · rw [SortedMap.get?_upsert_of_ne _ _ same, inductionHypothesis]
        simp [same, Ne.symm same]

theorem mem_keys_countKeys {keys : List κ} {key : κ} :
    key ∈ (countKeys keys).keys ↔ key ∈ keys := by
  rw [SortedMap.mem_keys_iff, get?_countKeys]
  split <;> simp [*]

end Counters

/-! ### Counts of observations -/

section Counts

variable {κ : Type} [DecidableEq κ]

/-- How many observations have a key. -/
def countOf (observed : List Observation) (key : Observation → κ) (wanted : κ) : Nat :=
  observed.countP fun observation => key observation = wanted

theorem count_map_eq_countOf (observed : List Observation) (key : Observation → κ) (wanted : κ) :
    (observed.map key).count wanted = countOf observed key wanted := by
  rw [List.count, List.countP_map]
  rfl

theorem countOf_cons (observation : Observation) (observed : List Observation)
    (key : Observation → κ) (wanted : κ) :
    countOf (observation :: observed) key wanted =
      countOf observed key wanted + if key observation = wanted then 1 else 0 := by
  simp [countOf, List.countP_cons]

theorem sumOf_countOf_nil (key : Observation → κ) (keys : List κ) :
    sumOf (keys.map (countOf [] key)) = 0 := by
  induction keys with
  | nil => rfl
  | cons wanted keys inductionHypothesis =>
      rw [List.map_cons, sumOf, inductionHypothesis]
      rfl

/-- One more observation counts once, under its key. -/
theorem sumOf_countOf_cons {observation : Observation} {observed : List Observation}
    {key : Observation → κ} {keys : List κ} (distinct : keys.Nodup)
    (covered : key observation ∈ keys) :
    sumOf (keys.map (countOf (observation :: observed) key)) =
      sumOf (keys.map (countOf observed key)) + 1 := by
  induction keys with
  | nil => contradiction
  | cons wanted keys inductionHypothesis =>
      obtain ⟨notAmong, restDistinct⟩ := List.nodup_cons.mp distinct
      rw [List.map_cons, List.map_cons, sumOf, sumOf, countOf_cons]
      by_cases isWanted : key observation = wanted
      · have others : keys.map (countOf (observation :: observed) key) =
            keys.map (countOf observed key) := by
          refine List.map_congr_left fun other member => ?_
          have different : key observation ≠ other := fun same =>
            notAmong (isWanted ▸ same ▸ member)
          rw [countOf_cons, if_neg different, Nat.add_zero]
        rw [others, if_pos isWanted]
        omega
      · rw [inductionHypothesis restDistinct
          ((List.mem_cons.mp covered).resolve_left isWanted), if_neg isWanted]
        omega

/-- The counts of keys that cover all observations, each once, sum up to their
number. -/
theorem sumOf_countOf {observed : List Observation} {key : Observation → κ} {keys : List κ}
    (distinct : keys.Nodup) (cover : ∀ observation ∈ observed, key observation ∈ keys) :
    sumOf (keys.map (countOf observed key)) = observed.length := by
  induction observed with
  | nil => exact sumOf_countOf_nil key keys
  | cons observation observed inductionHypothesis =>
      rw [List.forall_mem_cons] at cover
      rw [sumOf_countOf_cons distinct cover.1, inductionHypothesis cover.2, List.length_cons]

variable [Ord κ] [Std.TransOrd κ] [Std.LawfulEqOrd κ]

theorem values_countKeys (observed : List Observation) (key : Observation → κ) :
    (countKeys (observed.map key)).values =
      (countKeys (observed.map key)).keys.map (countOf observed key) := by
  refine SortedMap.values_eq_map_keys fun wanted count isCount => ?_
  rw [get?_countKeys, count_map_eq_countOf] at isCount
  split at isCount
  case isTrue => exact (Option.some.inj isCount).symm
  case isFalse => contradiction

theorem isEmpty_countKeys (observed : List Observation) (key : Observation → κ) :
    (countKeys (observed.map key)).isEmpty = observed.isEmpty := by
  cases observed with
  | nil => rfl
  | cons observation rest =>
      have counted : key observation ∈ (countKeys ((observation :: rest).map key)).keys :=
        mem_keys_countKeys.mpr (by simp)
      refine List.isEmpty_eq_false_iff.mpr fun empty => ?_
      rw [SortedMap.keys, empty] at counted
      contradiction

theorem getD_get?_countKeys (observed : List Observation) (key : Observation → κ) (wanted : κ) :
    ((countKeys (observed.map key)).get? wanted).getD 0 = countOf observed key wanted := by
  rw [get?_countKeys, count_map_eq_countOf]
  split
  case isTrue => rfl
  case isFalse absent =>
    rw [← count_map_eq_countOf, List.count_eq_zero_of_not_mem absent]
    rfl

end Counts

/-! ### Last sightings -/

/-- A time at which an agent was seen, with none of its times later. -/
structure IsNewest (observed : List Observation) (agent : String) (stamp : Time.Stamp) : Prop where
  seen : ∃ observation ∈ observed, observation.agent = agent ∧ observation.stamp = stamp
  last : ∀ observation ∈ observed, observation.agent = agent →
    stamp.instant.before observation.stamp.instant = false

theorem lastSeen_concat (observed : List Observation) (observation : Observation) :
    lastSeen (observed ++ [observation]) =
      (lastSeen observed).upsert observation.agent fun seen => later seen observation.stamp :=
  List.foldl_append

/-- What is remembered of an agent: nothing, or its newest time. -/
def Remembers (observed : List Observation) (agent : String) : Option Time.Stamp → Prop
  | none => ∀ observation ∈ observed, observation.agent ≠ agent
  | some stamp => IsNewest observed agent stamp

private theorem remembers_later {observed : List Observation} {observation : Observation}
    {seen : Option Time.Stamp} (remembers : Remembers observed observation.agent seen) :
    Remembers (observed ++ [observation]) observation.agent
      (some (later seen observation.stamp)) := by
  have isLast : ∃ last ∈ observed ++ [observation],
      last.agent = observation.agent ∧ last.stamp = observation.stamp :=
    ⟨observation, by simp, rfl, rfl⟩
  have notLater := Time.Instant.not_before_self observation.stamp.instant
  cases seen with
  | none =>
      refine ⟨isLast, List.forall_mem_append.mpr ⟨fun other isOld sameAgent => ?_, ?_⟩⟩
      · exact absurd sameAgent (remembers other isOld)
      · exact List.forall_mem_singleton.mpr fun _ => notLater
  | some seen =>
      obtain ⟨⟨first, isFirst, sameAgent⟩, last⟩ := remembers
      simp only [later]
      split
      case isTrue earlier =>
        refine ⟨isLast, List.forall_mem_append.mpr ⟨fun other isOld isAgent => ?_, ?_⟩⟩
        · exact Time.Instant.not_before_trans (Time.Instant.not_before_of_before earlier)
            (last other isOld isAgent)
        · exact List.forall_mem_singleton.mpr fun _ => notLater
      case isFalse notEarlier =>
        refine ⟨⟨first, List.mem_append_left _ isFirst, sameAgent⟩,
          List.forall_mem_append.mpr ⟨last, ?_⟩⟩
        exact List.forall_mem_singleton.mpr fun _ => Bool.eq_false_iff.mpr notEarlier

private theorem Remembers.append_other {observed : List Observation} {agent : String}
    {observation : Observation} {seen : Option Time.Stamp}
    (remembers : Remembers observed agent seen) (other : agent ≠ observation.agent) :
    Remembers (observed ++ [observation]) agent seen := by
  cases seen with
  | none =>
      exact List.forall_mem_append.mpr ⟨remembers, List.forall_mem_singleton.mpr other.symm⟩
  | some seen =>
      obtain ⟨⟨first, isFirst, sameAgent⟩, last⟩ := remembers
      refine ⟨⟨first, List.mem_append_left _ isFirst, sameAgent⟩,
        List.forall_mem_append.mpr ⟨last, ?_⟩⟩
      exact List.forall_mem_singleton.mpr fun isAgent => absurd isAgent.symm other

private theorem remembers_lastSeen (observed : List Observation) (agent : String) :
    Remembers observed agent ((lastSeen observed).get? agent) := by
  induction observed using List.reverseRecOn with
  | nil => exact fun _ member => nomatch member
  | append_singleton observed observation inductionHypothesis =>
      rw [lastSeen_concat]
      by_cases same : agent = observation.agent
      · subst same
        rw [SortedMap.get?_upsert_self]
        exact remembers_later inductionHypothesis
      · rw [SortedMap.get?_upsert_of_ne _ _ same]
        exact inductionHypothesis.append_other same

theorem isNewest_of_mem {observed : List Observation} {entry : String × Time.Stamp}
    (member : entry ∈ (lastSeen observed).entries) : IsNewest observed entry.1 entry.2 := by
  have remembers := remembers_lastSeen observed entry.1
  rwa [SortedMap.get?_eq_some_iff.mpr member] at remembers

theorem mem_keys_lastSeen {observed : List Observation} {agent : String} :
    agent ∈ (lastSeen observed).keys ↔ ∃ observation ∈ observed, observation.agent = agent := by
  have remembers := remembers_lastSeen observed agent
  rw [SortedMap.mem_keys_iff]
  cases found : (lastSeen observed).get? agent with
  | none =>
      rw [found] at remembers
      simpa using (show ∀ observation ∈ observed, observation.agent ≠ agent from remembers)
  | some stamp =>
      rw [found] at remembers
      obtain ⟨observation, member, isAgent, -⟩ := remembers.seen
      simpa using ⟨observation, member, isAgent⟩

/-! ### Observed events -/

theorem observation?_eq_some_iff {event : Value} {observation : Observation} :
    observation? event = some observation ↔
      (event.member? "agent_id").bind Value.text? = some observation.agent ∧
        Time.Rfc3339.parse? (field event "timestamp").toList = some observation.stamp ∧
        observation.event = event := by
  obtain ⟨agent, stamp, source⟩ := observation
  unfold observation?
  split
  case h_1 noAgent => simp [noAgent]
  case h_2 found isAgent =>
    simp only [isAgent, Option.map_eq_some_iff, Observation.mk.injEq, Option.some.injEq]
    constructor
    · rintro ⟨_, isStamp, rfl, rfl, rfl⟩
      exact ⟨rfl, isStamp, rfl⟩
    · rintro ⟨rfl, isStamp, rfl⟩
      exact ⟨stamp, isStamp, rfl, rfl, rfl⟩

theorem event_mem_of_mem {events : List Value} {observation : Observation}
    (member : observation ∈ observations events) : observation.event ∈ events := by
  obtain ⟨event, isEvent, isObserved⟩ := List.mem_filterMap.mp member
  exact (observation?_eq_some_iff.mp isObserved).2.2 ▸ isEvent

theorem parse?_of_mem {events : List Value} {observation : Observation}
    (member : observation ∈ observations events) :
    Time.Rfc3339.parse? (field observation.event "timestamp").toList = some observation.stamp := by
  obtain ⟨event, _, isObserved⟩ := List.mem_filterMap.mp member
  obtain ⟨-, isStamp, isEvent⟩ := observation?_eq_some_iff.mp isObserved
  rwa [isEvent]

def eventType (observation : Observation) : String := field observation.event "event_type"

/-- The hour of an observation, by its own clock. -/
def clockHour (observation : Observation) : Nat := observation.stamp.clock.hour

/-- The observed events of the last day, which the counters look at. -/
def recent (events : List Value) (now : Time.Instant) : List Observation :=
  (observations events).filter (isRecent now)

theorem mem_newestLogins {observed : List Observation} {event : Value}
    (member : event ∈ newestLogins observed) :
    ∃ observation ∈ observed, observation.event = event := by
  obtain ⟨observation, isTaken, isEvent⟩ := List.mem_map.mp member
  have isLogin := List.mem_mergeSort.mp (List.mem_of_mem_take isTaken)
  exact ⟨observation, (List.mem_filter.mp isLogin).1, isEvent⟩

end Demo.Stats

end EventConsole
