import EventConsole.Proofs.Dashboard.Statistics
import EventConsole.Proofs.Sorting
import EventConsole.Proofs.Time.Age
import Mathlib.Data.List.Forall2

/-!
Contract: the agent panel lists every agent once, newest first, and the agents
that are online ahead of the others.

The panel sorts instants and tells distances. The two agree up to leap seconds,
so that a row just past the five minutes may stand ahead of one that is not.

Owns: the order of the rows, what each row tells, and where the online ones are.

Does not own: which instants a store has for its agents.
-/

namespace EventConsole

namespace DashboardView

/-! ### Sightings in order -/

namespace Sighting

/-- Whether the agent was last seen within a leap second. -/
def inLeapSecond (sighting : Sighting) : Bool := sighting.seen.any Time.Instant.isLeap

/-- Readable times come first, newest ahead; equal and unreadable ones go by id. -/
def ListedBefore (a b : Sighting) : Prop :=
  match a.seen, b.seen with
  | some seen, some other => other.before seen = true ∨ seen = other ∧ compare a.id b.id = .lt
  | some _, none => True
  | none, some _ => False
  | none, none => compare a.id b.id = .lt

private theorem notLater_trans (a b c : Sighting) (first : notLater a b = true)
    (second : notLater b c = true) : notLater a c = true := by
  obtain ⟨id, seen⟩ := a
  obtain ⟨_, other⟩ := b
  obtain ⟨_, third⟩ := c
  cases seen <;> cases other <;> cases third <;>
    simp only [notLater, Bool.not_eq_true', Bool.false_eq_true] at first second ⊢
  exact Time.Instant.not_before_trans first second

private theorem notLater_total (a b : Sighting) : (notLater a b || notLater b a) = true := by
  obtain ⟨_, seen⟩ := a
  obtain ⟨_, other⟩ := b
  cases seen with
  | none => cases other <;> rfl
  | some seen =>
      cases other with
      | none => rfl
      | some other =>
          cases older : seen.before other with
          | false => simp [notLater, older]
          | true => simp [notLater, Time.Instant.not_before_of_before older]

private theorem listedBefore_of_notLater {a b : Sighting} (noLater : notLater a b = true)
    (ties : notLater b a = true → compare a.id b.id = .lt) : ListedBefore a b := by
  obtain ⟨id, seen⟩ := a
  obtain ⟨otherId, other⟩ := b
  cases seen with
  | none =>
      cases other with
      | none => exact ties rfl
      | some other => contradiction
  | some seen =>
      cases other with
      | none => trivial
      | some other =>
          simp only [notLater, Bool.not_eq_true'] at noLater ties
          cases newer : other.before seen with
          | true => exact .inl newer
          | false => exact .inr ⟨Time.Instant.eq_of_not_before noLater newer, ties newer⟩

end Sighting

/-! ### Rows -/

/-- What a row tells of a sighting: its age in words, and that it is online when
these are words for less than five minutes. -/
structure Tells (now : Time.Instant) (sighting : Sighting) (row : AgentRow) : Prop where
  id : row.id = sighting.id
  unreadable : sighting.seen = none → row.online = false ∧ row.seenAgo = "-"
  age : ∀ seen, sighting.seen = some seen → row.seenAgo = Time.ago seen now
  online : sighting.seen.isSome = true → (row.online = true ↔ Time.IsRecentWords row.seenAgo)

private theorem tells_agentRow (now : Time.Instant) (sighting : Sighting) :
    Tells now sighting (agentRow now sighting) := by
  obtain ⟨id, seen⟩ := sighting
  cases seen with
  | none => exact ⟨rfl, fun _ => ⟨rfl, rfl⟩, nofun, nofun⟩
  | some seen =>
      refine ⟨rfl, nofun, fun _ same => ?_, fun _ => ?_⟩
      · obtain rfl := Option.some.inj same
        rfl
      · exact decide_eq_true_iff.trans Time.isRecentWords_ago_iff.symm

/-! ### Online rows -/

/-- A row may be offline ahead of an online one: it is just past the five minutes,
and there is a leap second at one of the ends. -/
structure PassedOver (now : Time.Instant) (earlier later : Sighting) (row : AgentRow) : Prop where
  age : row.seenAgo = "5 min ago"
  leap : now.isLeap = true ∨ earlier.inLeapSecond = true ∨ later.inLeapSecond = true

section Online

variable {now : Time.Instant}

theorem online_agentRow_iff {sighting : Sighting} :
    (agentRow now sighting).online = true ↔
      ∃ seen, sighting.seen = some seen ∧ now.secondsSince seen < 300 := by
  simp only [agentRow, Option.any_eq_true, decide_eq_true_eq]
  exact Iff.rfl

private theorem nanos_lt_of_mem {agents : SortedMap String String} {sighting : Sighting}
    (member : sighting ∈ agents.entries.map Sighting.ofEntry) {seen : Time.Instant}
    (isSeen : sighting.seen = some seen) : seen.nanos < 2 * Time.nanosPerSecond := by
  obtain ⟨entry, -, rfl⟩ := List.mem_map.mp member
  obtain ⟨stamp, isRead, rfl⟩ := Option.map_eq_some_iff.mp isSeen
  exact Time.Rfc3339.nanos_lt_of_parse? isRead

/-- Ahead of an online row stand online rows, and such as leap seconds put there. -/
theorem online_or_passedOver {earlier later : Sighting} (listed : earlier.ListedBefore later)
    (small : ∀ seen, later.seen = some seen → seen.nanos < 2 * Time.nanosPerSecond)
    (online : (agentRow now later).online = true) :
    (agentRow now earlier).online = true ∨
      PassedOver now earlier later (agentRow now earlier) := by
  obtain ⟨older, isOlder, recent⟩ := online_agentRow_iff.mp online
  have fraction := small older isOlder
  obtain ⟨id, seen⟩ := earlier
  obtain ⟨otherId, other⟩ := later
  obtain rfl : other = some older := isOlder
  cases seen with
  | none => contradiction
  | some newer =>
      have noLater : newer.before older = false := by
        rcases listed with before | ⟨rfl, -⟩
        · exact Time.Instant.not_before_of_before before
        · exact Time.Instant.not_before_self _
      rw [or_iff_not_imp_left]
      intro offline
      have late : ¬ now.secondsSince newer < 300 := fun isRecent =>
        offline (online_agentRow_iff.mpr ⟨newer, rfl, isRecent⟩)
      constructor
      case age =>
        have near : now.since newer < _ := Time.Instant.since_lt_of_not_before noLater fraction
        have soon : now.secondsSince newer < 302 := by
          rw [Time.Instant.secondsSince_lt_iff (by decide)] at recent ⊢
          unfold Time.nanosPerSecond at *
          omega
        exact Time.ago_eq_five ⟨by omega, by omega⟩
      case leap =>
        by_contra plain
        simp only [not_or, Bool.not_eq_true] at plain
        have notMore :=
          Time.Instant.secondsSince_le_of_not_before noLater plain.1 plain.2.1 plain.2.2
        omega

end Online

/-! ### The panel -/

/-- There is one row for each agent. The rows stand in order and tell of their
sightings, and the online ones come first, up to leap seconds. -/
structure ListsInOrder (agents : SortedMap String String) (now : Time.Instant)
    (ranking : List Sighting) (rows : List AgentRow) : Prop where
  all : ranking.Perm (agents.entries.map Sighting.ofEntry)
  ids : (rows.map AgentRow.id).Perm agents.keys
  ordered : ranking.Pairwise Sighting.ListedBefore
  told : List.Forall₂ (Tells now) ranking rows
  onlineFirst : (ranking.zip rows).Pairwise fun earlier later =>
    later.2.online = true → earlier.2.online = true ∨ PassedOver now earlier.1 later.1 earlier.2
  onlinePrefix : now.isLeap = false → (∀ sighting ∈ ranking, sighting.inLeapSecond = false) →
    rows.filter AgentRow.online <+: rows

private theorem ordered_mergeSort (agents : SortedMap String String) :
    ((agents.entries.map Sighting.ofEntry).mergeSort Sighting.notLater).Pairwise
      Sighting.ListedBefore := by
  have byId : (agents.entries.map Sighting.ofEntry).Pairwise fun a b => compare a.id b.id = .lt :=
    List.pairwise_map.mpr agents.increasing
  exact (pairwise_mergeSort_of_pairwise Sighting.notLater_trans Sighting.notLater_total byId).imp
    fun ⟨noLater, ties⟩ => Sighting.listedBefore_of_notLater noLater ties

private theorem listsInOrder_agentRows (agents : SortedMap String String) (now : Time.Instant) :
    ListsInOrder agents now ((agents.entries.map Sighting.ofEntry).mergeSort Sighting.notLater)
      (agentRows agents now) := by
  have ordered := ordered_mergeSort agents
  have perm := List.mergeSort_perm (agents.entries.map Sighting.ofEntry) Sighting.notLater
  have ids := perm_ids_agentRows agents now
  rw [agentRows] at ids ⊢
  generalize (agents.entries.map Sighting.ofEntry).mergeSort Sighting.notLater = ranking
    at ordered perm ids ⊢
  have aheadOfOnline : ranking.Pairwise fun earlier later =>
      (agentRow now later).online = true → (agentRow now earlier).online = true ∨
        PassedOver now earlier later (agentRow now earlier) := by
    refine ordered.imp_of_mem fun _ isLater listed online => ?_
    exact online_or_passedOver listed (fun _ => nanos_lt_of_mem (perm.mem_iff.mp isLater)) online
  constructor
  case all => exact perm
  case ids => exact ids
  case ordered => exact ordered
  case told =>
    exact List.forall₂_map_right_iff.mpr
      (List.forall₂_same.mpr fun sighting _ => tells_agentRow now sighting)
  case onlineFirst =>
    have pairs : ranking.zip (ranking.map (agentRow now)) =
        ranking.map fun sighting => (sighting, agentRow now sighting) := by
      simpa using List.zip_map' (f := id) (g := agentRow now) (l := ranking)
    rw [pairs, List.pairwise_map]
    exact aheadOfOnline
  case onlinePrefix =>
    intro plainNow plain
    refine filter_prefix_of_pairwise (List.pairwise_map.mpr ?_)
    refine aheadOfOnline.imp_of_mem fun isEarlier isLater ahead online => ?_
    refine (ahead online).resolve_right fun passed => ?_
    rcases passed.leap with leap | leap | leap
    · exact Bool.false_ne_true (plainNow.symm.trans leap)
    · exact Bool.false_ne_true ((plain _ isEarlier).symm.trans leap)
    · exact Bool.false_ne_true ((plain _ isLater).symm.trans leap)

/-- For every map that is not empty and at every time the panel has its rows in
order. -/
theorem listsInOrder_agentPanel {agents : SortedMap String String}
    (filled : agents.isEmpty = false) (now : Time.Instant) :
    ∃ ranking rows, agentPanel (some agents) now = .items rows ∧
      ListsInOrder agents now ranking rows := by
  have lists := listsInOrder_agentRows agents now
  refine ⟨_, agentRows agents now, ?_, lists⟩
  have notEmpty : (agentRows agents now).isEmpty = false := by
    have count := lists.ids.length_eq
    rw [List.length_map, SortedMap.keys, List.length_map] at count
    rw [List.isEmpty_eq_false_iff, ← List.length_pos_iff, count, List.length_pos_iff]
    exact List.isEmpty_eq_false_iff.mp filled
  rw [agentPanel, Panel.ofItems, notEmpty]
  rfl

/-- Two agents, the older one seen in the leap second at the end of 2016. -/
def acrossLeapSecond : SortedMap String String :=
  .ofList [("web-1", "2016-12-31T23:59:60.5Z"), ("web-2", "2017-01-01T00:00:00Z")]

/-- 2017-01-01, 00:05 on the universal clock. -/
def fivePastMidnight : Time.Instant := ⟨1483229100, 0⟩

theorem listsInOrder_acrossLeapSecond :
    acrossLeapSecond.isEmpty = false ∧
      ∃ ranking rows, agentPanel (some acrossLeapSecond) fivePastMidnight = .items rows ∧
        ListsInOrder acrossLeapSecond fivePastMidnight ranking rows := by
  have filled : acrossLeapSecond.isEmpty = false := by decide
  exact ⟨filled, listsInOrder_agentPanel filled fivePastMidnight⟩

/-- The second after the leap second is five minutes ago, and the leap second itself
is less. -/
theorem not_prefix_acrossLeapSecond :
    acrossLeapSecond.isEmpty = false ∧
      ∃ rows, agentPanel (some acrossLeapSecond) fivePastMidnight = .items rows ∧
        rows.map AgentRow.seenAgo = ["5 min ago", "4 min ago"] ∧
        ¬ rows.filter AgentRow.online <+: rows := by
  have sightings : acrossLeapSecond.entries.map Sighting.ofEntry =
      [⟨"web-1", some ⟨1483228799, 1500000000⟩⟩, ⟨"web-2", some ⟨1483228800, 0⟩⟩] := rfl
  have sorted : (acrossLeapSecond.entries.map Sighting.ofEntry).mergeSort Sighting.notLater =
      [⟨"web-2", some ⟨1483228800, 0⟩⟩, ⟨"web-1", some ⟨1483228799, 1500000000⟩⟩] := by
    simp [sightings, List.mergeSort, Sighting.notLater, Time.Instant.before]
  refine ⟨by decide, [⟨"web-2", false, "5 min ago"⟩, ⟨"web-1", true, "4 min ago"⟩], ?_, rfl,
    by decide⟩
  rw [agentPanel, agentRows, sorted]
  rfl

end DashboardView

end EventConsole
