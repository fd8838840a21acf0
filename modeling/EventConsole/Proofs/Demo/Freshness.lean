import EventConsole.Proofs.Demo.Arrivals

/-!
Contract: statistics are never told once they are as old as their lifetime.

The cache holds what was computed at the last recomputation, with its time; a
request at that age or later has them computed anew.

Owns: when a server recomputes, what the cache holds after a sequence of
requests, and over all sequences for which time the answers are computed.
-/

namespace EventConsole.Demo

/-- One request came at least some time before another. -/
def Arrival.IsApart (span : Nat) (earlier later : Arrival) : Prop :=
  (span : Int) ≤ later.elapsed - earlier.elapsed

/-- The clock did not run backwards from request to request. -/
def InOrder (arrivals : List Arrival) : Prop :=
  arrivals.Pairwise fun earlier later => earlier.elapsed ≤ later.elapsed

namespace Server

/-! ### Recomputing -/

/-- A request for whose answer statistics are computed. -/
def recomputes (server : Server) (arrival : Arrival) : Bool :=
  arrival.request.tellsStats server.login && (server.freshStats? arrival.elapsed).isNone

/-- The requests of a sequence at which statistics were computed. -/
def recomputations (server : Server) : List Arrival → List Arrival
  | [] => []
  | arrival :: rest =>
      (if server.recomputes arrival then [arrival] else []) ++
        (server.receive arrival).2.recomputations rest

/-- What is cached when statistics are computed. -/
def computedAt (server : Server) (arrival : Arrival) : CachedStats :=
  ⟨arrival.elapsed, Stats.compute server.store.events arrival.now⟩

/-- The request at which the statistics were computed that a request is answered
with: the last recomputation while it is younger than the lifetime, and else the
request itself. -/
def origin (server : Server) (before : List Arrival) (arrival : Arrival) : Arrival :=
  match (server.recomputations before).getLast? with
  | none => arrival
  | some last => if arrival.elapsed - last.elapsed < server.lifetime then last else arrival

private theorem snd_receive (server : Server) (arrival : Arrival) :
    (server.receive arrival).2 =
      if server.recomputes arrival then { server with cache := some (server.computedAt arrival) }
      else server := by
  unfold recomputes
  cases tells : arrival.request.tellsStats server.login with
  | false =>
      rw [snd_receive_of_not_tellsStats tells]
      rfl
  | true =>
      rw [receive_of_tellsStats tells]
      unfold currentStats
      cases server.freshStats? arrival.elapsed <;> rfl

private theorem recomputations_append (server : Server) (arrivals more : List Arrival) :
    server.recomputations (arrivals ++ more) =
      server.recomputations arrivals ++ (server.after arrivals).recomputations more := by
  induction arrivals generalizing server with
  | nil => rfl
  | cons arrival rest inductionHypothesis =>
      rw [List.cons_append, recomputations, recomputations, inductionHypothesis, after_cons,
        List.append_assoc]

theorem recomputations_concat (server : Server) (arrivals : List Arrival) (arrival : Arrival) :
    server.recomputations (arrivals ++ [arrival]) =
      server.recomputations arrivals ++
        if (server.after arrivals).recomputes arrival then [arrival] else [] := by
  rw [recomputations_append]
  simp [recomputations]

private theorem mem_of_mem_recomputations {server : Server} {arrivals : List Arrival}
    {arrival : Arrival}
    (computed : arrival ∈ server.recomputations arrivals) : arrival ∈ arrivals := by
  induction arrivals generalizing server with
  | nil => exact computed
  | cons first rest inductionHypothesis =>
      rw [recomputations, List.mem_append] at computed
      rcases computed with now | later
      · split at now
        · rw [List.mem_singleton.mp now]
          exact List.mem_cons_self
        · exact absurd now List.not_mem_nil
      · exact List.mem_cons_of_mem first (inductionHypothesis later)

/-! ### The cache -/

section Cache

variable {server : Server} (noCache : server.cache = none)

include noCache

/-- The cache holds what was computed at the last recomputation. -/
theorem cache_after (arrivals : List Arrival) :
    (server.after arrivals).cache =
      (server.recomputations arrivals).getLast?.map server.computedAt := by
  induction arrivals using List.reverseRecOn with
  | nil => exact noCache
  | append_singleton arrivals arrival inductionHypothesis =>
      obtain ⟨cache, kept⟩ := after_keeps server arrivals
      rw [after_concat, snd_receive, recomputations_concat]
      cases computed : (server.after arrivals).recomputes arrival with
      | false => simpa using inductionHypothesis
      | true =>
          rw [if_pos rfl, if_pos rfl, List.getLast?_concat, Option.map_some, kept]
          rfl

private theorem freshStats?_after (arrivals : List Arrival) (elapsed : Int) :
    (server.after arrivals).freshStats? elapsed =
      (server.recomputations arrivals).getLast?.bind fun last =>
        if elapsed - last.elapsed < server.lifetime then
          some (Stats.compute server.store.events last.now)
        else none := by
  obtain ⟨cache, kept⟩ := after_keeps server arrivals
  have lifetime : (server.after arrivals).lifetime = server.lifetime := by rw [kept]
  unfold freshStats?
  rw [cache_after noCache, lifetime]
  cases (server.recomputations arrivals).getLast? <;> rfl

private theorem fst_currentStats_after (before : List Arrival) (arrival : Arrival) :
    ((server.after before).currentStats arrival.elapsed arrival.now).1 =
      Stats.compute server.store.events (server.origin before arrival).now := by
  obtain ⟨cache, kept⟩ := after_keeps server before
  have store : (server.after before).store = server.store := by rw [kept]
  unfold currentStats origin
  rw [freshStats?_after noCache, store]
  cases (server.recomputations before).getLast? with
  | none => rfl
  | some last =>
      by_cases young : arrival.elapsed - last.elapsed < server.lifetime
      · simp [young]
      · simp [young]

/-- A request for statistics has them computed unless they were within the lifetime. -/
theorem recomputes_after_iff {before : List Arrival} {arrival : Arrival} :
    (server.after before).recomputes arrival = true ↔
      arrival.request.tellsStats server.login = true ∧
        ∀ last, (server.recomputations before).getLast? = some last →
          Arrival.IsApart server.lifetime last arrival := by
  obtain ⟨cache, kept⟩ := after_keeps server before
  have login : (server.after before).login = server.login := by
    rw [kept]
    rfl
  unfold recomputes
  rw [freshStats?_after noCache, login, Bool.and_eq_true]
  cases (server.recomputations before).getLast? with
  | none => simp
  | some last => simp [Arrival.IsApart]

/-- Every recomputation is at least the lifetime after all earlier ones. -/
theorem apart_recomputations (arrivals : List Arrival) :
    (server.recomputations arrivals).Pairwise (Arrival.IsApart server.lifetime) := by
  induction arrivals using List.reverseRecOn with
  | nil => exact List.Pairwise.nil
  | append_singleton arrivals arrival inductionHypothesis =>
      rw [recomputations_concat]
      split
      case isFalse => simpa using inductionHypothesis
      case isTrue computed =>
        have due := ((recomputes_after_iff noCache).mp computed).2
        refine List.pairwise_append.mpr ⟨inductionHypothesis, List.pairwise_singleton _ _, ?_⟩
        intro earlier isEarlier later isLater
        rw [List.mem_singleton.mp isLater]
        -- The last one before is far enough; whatever came before that is further.
        cases found : (server.recomputations arrivals).getLast? with
        | none =>
            rw [List.getLast?_eq_none_iff.mp found] at isEarlier
            exact absurd isEarlier List.not_mem_nil
        | some last =>
            have lastDue := due last found
            obtain ⟨others, split⟩ := List.getLast?_eq_some_iff.mp found
            rw [split, List.mem_append, List.mem_singleton] at isEarlier
            rw [split, List.pairwise_append] at inductionHypothesis
            rcases isEarlier with isOther | isLast
            · have apart :=
                inductionHypothesis.2.2 earlier isOther last (List.mem_singleton_self last)
              unfold Arrival.IsApart at *
              omega
            · rw [isLast]
              exact lastDue

end Cache

/-! ### Other requests -/

theorem onlyMatters_tellsStats (login : Login) :
    OnlyMatters (fun request => request.tellsStats login) login := by
  rintro server arrival rfl other
  exact snd_receive_of_not_tellsStats other

private theorem recomputations_arrivalsOf (server : Server) (arrivals : List Arrival) :
    server.recomputations
        (arrivalsOf (fun request => request.tellsStats server.login) arrivals) =
      server.recomputations arrivals := by
  induction arrivals generalizing server with
  | nil => rfl
  | cons arrival rest inductionHypothesis =>
      have later := inductionHypothesis (server.receive arrival).2
      rw [login_receive] at later
      rw [arrivalsOf_cons, recomputations]
      cases tells : arrival.request.tellsStats server.login with
      | true =>
          rw [if_pos rfl, recomputations, later]
      | false =>
          have idle : server.recomputes arrival = false := by
            rw [recomputes, tells, Bool.false_and]
          rw [snd_receive_of_not_tellsStats tells] at later ⊢
          rw [idle]
          exact later

/-! ### Sequences -/

/-- A request after others is answered with the statistics of its origin, which
is younger than the lifetime; with a lifetime of zero it is the request's own time. -/
structure AnswersFresh (server : Server) (before : List Arrival) (arrival : Arrival) : Prop where
  answer : ((server.after before).receive arrival).1 =
    arrival.request.shape (Response.json
      (Stats.compute server.store.events (server.origin before arrival).now).toJson)
  recomputes : (server.after before).recomputes arrival = true ↔
    ∀ last, (server.recomputations before).getLast? = some last →
      Arrival.IsApart server.lifetime last arrival
  notLater : (server.origin before arrival).elapsed ≤ arrival.elapsed
  young : 0 < server.lifetime →
    arrival.elapsed - (server.origin before arrival).elapsed < server.lifetime
  atOnce : server.lifetime = 0 → server.origin before arrival = arrival

/-- Over a sequence of requests statistics are told fresh and computed no more
often than once in a lifetime, and all other requests might as well not have come. -/
structure TellsFresh (server : Server) (arrivals : List Arrival) : Prop where
  each : ∀ before arrival rest, arrivals = before ++ arrival :: rest →
    arrival.request.tellsStats server.login = true → AnswersFresh server before arrival
  apart : (server.recomputations arrivals).Pairwise (Arrival.IsApart server.lifetime)
  others : server.recomputations
      (arrivalsOf (fun request => request.tellsStats server.login) arrivals) =
    server.recomputations arrivals
  answers : answersTo (fun request => request.tellsStats server.login) (server.answers arrivals) =
    server.answers (arrivalsOf (fun request => request.tellsStats server.login) arrivals)

theorem origin_cases (server : Server) (before : List Arrival) (arrival : Arrival) :
    server.origin before arrival = arrival ∨
      server.origin before arrival ∈ server.recomputations before ∧
        arrival.elapsed - (server.origin before arrival).elapsed < server.lifetime := by
  unfold origin
  cases found : (server.recomputations before).getLast? with
  | none => exact .inl rfl
  | some last =>
      dsimp only
      by_cases young : arrival.elapsed - last.elapsed < server.lifetime
      · rw [if_pos young]
        exact .inr ⟨List.mem_of_getLast? found, young⟩
      · rw [if_neg young]
        exact .inl rfl

private theorem answersFresh_of_ordered {server : Server} (noCache : server.cache = none)
    {before : List Arrival} {arrival : Arrival}
    (ordered : ∀ earlier ∈ before, earlier.elapsed ≤ arrival.elapsed)
    (tells : arrival.request.tellsStats server.login = true) :
    AnswersFresh server before arrival := by
  have notLater : (server.origin before arrival).elapsed ≤ arrival.elapsed := by
    rcases server.origin_cases before arrival with itself | ⟨computed, _⟩
    · have same : (server.origin before arrival).elapsed = arrival.elapsed := by rw [itself]
      exact Int.le_of_eq same
    · exact ordered _ (mem_of_mem_recomputations computed)
  obtain ⟨cache, kept⟩ := after_keeps server before
  have login : (server.after before).login = server.login := by
    rw [kept]
    rfl
  refine ⟨?answer, ?recomputes, notLater, ?young, ?atOnce⟩
  case answer =>
    rw [receive_of_tellsStats (login ▸ tells), fst_currentStats_after noCache]
  case recomputes =>
    rw [recomputes_after_iff noCache, and_iff_right tells]
  case young =>
    intro positive
    rcases server.origin_cases before arrival with itself | ⟨_, young⟩
    · rw [itself]
      omega
    · exact young
  case atOnce =>
    intro zero
    rcases server.origin_cases before arrival with itself | ⟨_, young⟩
    · exact itself
    · omega

/-- A server starts without statistics, and its clock does not run backwards. -/
theorem tellsFresh_run {server : Server} (noCache : server.cache = none) {arrivals : List Arrival}
    (ordered : InOrder arrivals) : TellsFresh server arrivals where
  each := by
    rintro before arrival rest rfl tells
    refine answersFresh_of_ordered noCache ?_ tells
    intro earlier isEarlier
    exact (List.pairwise_append.mp ordered).2.2 earlier isEarlier arrival List.mem_cons_self
  apart := apart_recomputations noCache arrivals
  others := recomputations_arrivalsOf server arrivals
  answers := answersTo_answers (onlyMatters_tellsStats server.login) arrivals

/-- A server of one event whose statistics last for ten milliseconds. -/
def briefServer : Server where
  store :=
    ⟨[.object [("agent_id", .string "web-01"), ("timestamp", .string "1970-01-01T00:00:00Z")]]⟩
  user := "a"
  password := "b"
  cache := none
  lifetime := 10

/-- A request for statistics at a time on both clocks. -/
def poll (millis : Int) : Arrival :=
  ⟨⟨"GET", "/api/stats", some "Basic YTpi"⟩, millis, Time.Instant.ofMillis millis⟩

/-- The answer at nine milliseconds is that of the start; at ten it is computed anew. -/
theorem tellsFresh_briefServer :
    briefServer.cache = none ∧ InOrder [poll 0, poll 9, poll 10, poll 19] ∧
      (briefServer.recomputations [poll 0, poll 9, poll 10, poll 19]).map Arrival.elapsed =
        [0, 10] ∧
      TellsFresh briefServer [poll 0, poll 9, poll 10, poll 19] := by
  have ordered : InOrder [poll 0, poll 9, poll 10, poll 19] := by
    simp [InOrder, poll]
  exact ⟨rfl, ordered, by decide +kernel, tellsFresh_run rfl ordered⟩

end Server

end EventConsole.Demo
