import EventConsole.Demo.Server
import Mathlib.Data.List.Induction

/-!
Contract: requests that come one after the other, each at its time.

Whether a request is refused, answered from the store alone, or answered with
statistics is settled by the request and the login of the server. Only the last
kind reads or writes the cache.

Owns: arrivals, the answers to a sequence of them, the kinds of requests with
what each does, that the store, the login and the lifetime stay, and that requests
with other credentials than those of the server learn nothing and change nothing.
-/

namespace EventConsole.Demo

/-! ### Kinds of requests -/

namespace Request

def login? (request : Request) : Option Login := request.authorization.bind Login.ofHeader?

/-- The credentials of a request are those of a login. -/
def isFrom (request : Request) (login : Login) : Bool := request.login? = some login

def endpoint? (request : Request) : Option Endpoint :=
  Endpoint.ofPath? (String.ofList (splitTarget request.target).1)

/-- The methods that the endpoints answer. -/
def isRead (request : Request) : Bool := request.method = "GET" ∨ request.method = "HEAD"

/-- A request from a login that is answered with statistics. -/
def tellsStats (request : Request) (login : Login) : Bool :=
  request.isFrom login && request.endpoint? = some .stats && request.isRead

/-- The form in which a read is answered. -/
def shape (request : Request) (response : Response) : Response :=
  if request.method = "HEAD" then response.withoutBody else response

/-- The answer to a request with other credentials than those of the server. An
unknown path is not found by anyone. -/
def refusal (request : Request) : Response :=
  match request.endpoint? with
  | none => Response.notFound
  | some _ =>
      if request.isRead then request.shape Response.unauthorized
      else Response.unauthorized.allowing

end Request

/-- A request with the readings of the two clocks when it came. -/
structure Arrival where
  request : Request
  elapsed : Int
  now : Time.Instant

namespace Server

def login (server : Server) : Login := ⟨server.user, server.password⟩

def receive (server : Server) (arrival : Arrival) : Response × Server :=
  server.handle arrival.request arrival.elapsed arrival.now

/-- The server after a sequence of requests. -/
def after (server : Server) (arrivals : List Arrival) : Server :=
  arrivals.foldl (fun server arrival => (server.receive arrival).2) server

/-- A sequence of requests, each with its answer. -/
def answers (server : Server) : List Arrival → List (Arrival × Response)
  | [] => []
  | arrival :: rest =>
      (arrival, (server.receive arrival).1) :: (server.receive arrival).2.answers rest

/-! ### One request -/

theorem admits_eq_isFrom (server : Server) (request : Request) :
    server.admits request = request.isFrom server.login := by
  unfold admits Request.isFrom Request.login? login
  cases request.authorization.bind Login.ofHeader? with
  | none => rfl
  | some found =>
      cases found
      simp [Bool.beq_eq_decide_eq]

theorem handle_eq (server : Server) (request : Request) (elapsed : Int) (now : Time.Instant) :
    server.handle request elapsed now =
      match request.endpoint? with
      | none => (Response.notFound, server)
      | some endpoint =>
          if request.isFrom server.login then
            if request.isRead then
              let answer := server.serve endpoint (splitTarget request.target).2 elapsed now
              (request.shape answer.1, answer.2)
            else (Response.notAllowed.allowing, server)
          else (request.refusal, server) := by
  unfold handle Request.refusal
  simp only [admits_eq_isFrom, Request.endpoint?, Request.isRead, decide_eq_true_eq]
  cases Endpoint.ofPath? (String.ofList (splitTarget request.target).1) with
  | none => rfl
  | some endpoint =>
      dsimp only [Request.shape]
      split
      · rfl
      · split <;> rfl

section OneRequest

variable {server : Server} {arrival : Arrival}

/-- A refused request is answered from itself, and nothing happens. -/
theorem receive_of_refused (refused : arrival.request.isFrom server.login = false) :
    server.receive arrival = (arrival.request.refusal, server) := by
  unfold receive
  rw [handle_eq]
  cases place : arrival.request.endpoint? with
  | none => simp [Request.refusal, place]
  | some endpoint => simp [refused]

theorem receive_of_tellsStats (tells : arrival.request.tellsStats server.login = true) :
    server.receive arrival =
      (arrival.request.shape
          (Response.json (server.currentStats arrival.elapsed arrival.now).1.toJson),
        (server.currentStats arrival.elapsed arrival.now).2) := by
  simp only [Request.tellsStats, Bool.and_eq_true, decide_eq_true_eq] at tells
  obtain ⟨⟨fromUser, place⟩, read⟩ := tells
  unfold receive
  rw [handle_eq]
  simp only [place, fromUser, read, if_true, serve]

theorem snd_receive_of_not_tellsStats
    (other : arrival.request.tellsStats server.login = false) :
    (server.receive arrival).2 = server := by
  unfold receive
  rw [handle_eq]
  split
  case h_1 => rfl
  case h_2 endpoint place =>
    split
    case isFalse => rfl
    case isTrue fromUser =>
      split
      case isFalse => rfl
      case isTrue read =>
        cases endpoint with
        | health => rfl
        | events => rfl
        | stats => simp [Request.tellsStats, fromUser, place, read] at other

/-- A request changes nothing but the cache. -/
theorem receive_keeps (server : Server) (arrival : Arrival) :
    ∃ cache, (server.receive arrival).2 = { server with cache := cache } := by
  cases tells : arrival.request.tellsStats server.login with
  | true =>
      rw [receive_of_tellsStats tells]
      unfold currentStats
      split
      · exact ⟨server.cache, rfl⟩
      · exact ⟨_, rfl⟩
  | false =>
      rw [snd_receive_of_not_tellsStats tells]
      exact ⟨server.cache, rfl⟩

theorem login_receive (server : Server) (arrival : Arrival) :
    (server.receive arrival).2.login = server.login := by
  obtain ⟨cache, kept⟩ := receive_keeps server arrival
  rw [kept]
  rfl

end OneRequest

/-! ### Sequences -/

theorem after_cons (server : Server) (arrival : Arrival) (rest : List Arrival) :
    server.after (arrival :: rest) = (server.receive arrival).2.after rest := rfl

theorem after_concat (server : Server) (arrivals : List Arrival) (arrival : Arrival) :
    server.after (arrivals ++ [arrival]) = ((server.after arrivals).receive arrival).2 := by
  unfold after
  rw [List.foldl_append]
  rfl

theorem after_keeps (server : Server) (arrivals : List Arrival) :
    ∃ cache, server.after arrivals = { server with cache := cache } := by
  induction arrivals using List.reverseRecOn with
  | nil => exact ⟨server.cache, rfl⟩
  | append_singleton arrivals arrival inductionHypothesis =>
      obtain ⟨cache, before⟩ := inductionHypothesis
      obtain ⟨cache', kept⟩ := receive_keeps (server.after arrivals) arrival
      refine ⟨cache', ?_⟩
      rw [after_concat, kept, before]

theorem answers_cons (server : Server) (arrival : Arrival) (rest : List Arrival) :
    server.answers (arrival :: rest) =
      (arrival, (server.receive arrival).1) :: (server.receive arrival).2.answers rest := rfl

/-- The answers to requests of some kind. -/
def answersTo (kind : Request → Bool) (answers : List (Arrival × Response)) :
    List (Arrival × Response) :=
  answers.filter fun answer => kind answer.1.request

/-- The arrivals of requests of some kind. -/
def arrivalsOf (kind : Request → Bool) (arrivals : List Arrival) : List Arrival :=
  arrivals.filter fun arrival => kind arrival.request

theorem arrivalsOf_cons (kind : Request → Bool) (arrival : Arrival) (rest : List Arrival) :
    arrivalsOf kind (arrival :: rest) =
      if kind arrival.request then arrival :: arrivalsOf kind rest else arrivalsOf kind rest :=
  List.filter_cons

theorem answersTo_cons (kind : Request → Bool) (answer : Arrival × Response)
    (rest : List (Arrival × Response)) :
    answersTo kind (answer :: rest) =
      if kind answer.1.request then answer :: answersTo kind rest else answersTo kind rest :=
  List.filter_cons

/-- Requests that are not of some kind do nothing to servers of a login. -/
def OnlyMatters (kind : Request → Bool) (login : Login) : Prop :=
  ∀ (server : Server) (arrival : Arrival), server.login = login →
    kind arrival.request = false → (server.receive arrival).2 = server

section OnlyMatters

variable {kind : Request → Bool} {server : Server} (only : OnlyMatters kind server.login)

include only

/-- What does nothing can be left out. -/
theorem after_arrivalsOf (arrivals : List Arrival) :
    server.after (arrivalsOf kind arrivals) = server.after arrivals := by
  induction arrivals generalizing server with
  | nil => rfl
  | cons arrival rest inductionHypothesis =>
      have later := inductionHypothesis (login_receive server arrival ▸ only)
      rw [arrivalsOf_cons, after_cons]
      cases isKind : kind arrival.request with
      | true => exact later
      | false =>
          rw [only server arrival rfl isKind] at later ⊢
          exact later

theorem answersTo_answers (arrivals : List Arrival) :
    answersTo kind (server.answers arrivals) = server.answers (arrivalsOf kind arrivals) := by
  induction arrivals generalizing server with
  | nil => rfl
  | cons arrival rest inductionHypothesis =>
      have later := inductionHypothesis (login_receive server arrival ▸ only)
      rw [answers_cons, answersTo_cons, arrivalsOf_cons]
      cases isKind : kind arrival.request with
      | true => exact congrArg (_ :: ·) later
      | false =>
          rw [only server arrival rfl isKind] at later ⊢
          exact later

end OnlyMatters

/-! ### Refusals -/

/-- Requests with the credentials of a login. -/
def fromLogin (login : Login) (request : Request) : Bool := request.isFrom login

def notFromLogin (login : Login) (request : Request) : Bool := !request.isFrom login

private theorem onlyMatters_fromLogin (login : Login) : OnlyMatters (fromLogin login) login := by
  rintro server arrival rfl refused
  rw [receive_of_refused refused]

/-- Refused requests are answered from themselves. -/
theorem answersTo_notFromLogin (server : Server) (arrivals : List Arrival) :
    answersTo (notFromLogin server.login) (server.answers arrivals) =
      (arrivalsOf (notFromLogin server.login) arrivals).map fun arrival =>
        (arrival, arrival.request.refusal) := by
  induction arrivals generalizing server with
  | nil => rfl
  | cons arrival rest inductionHypothesis =>
      have later := inductionHypothesis (server.receive arrival).2
      rw [login_receive] at later
      rw [answers_cons, answersTo_cons, arrivalsOf_cons]
      cases fromUser : arrival.request.isFrom server.login with
      | true =>
          have notOther : notFromLogin server.login arrival.request = false := by
            rw [notFromLogin, fromUser, Bool.not_true]
          rw [notOther]
          exact later
      | false =>
          have isOther : notFromLogin server.login arrival.request = true := by
            rw [notFromLogin, fromUser, Bool.not_false]
          rw [receive_of_refused fromUser] at later ⊢
          rw [isOther]
          exact congrArg (_ :: ·) later

/-- Over a sequence of requests, those with other credentials than the server's
have no effect on the rest, and are answered alike by any server of that login. -/
structure RefusesBlindly (server : Server) (arrivals : List Arrival) : Prop where
  others : answersTo (fromLogin server.login) (server.answers arrivals) =
    server.answers (arrivalsOf (fromLogin server.login) arrivals)
  state : server.after (arrivalsOf (fromLogin server.login) arrivals) = server.after arrivals
  alike : ∀ other : Server, other.login = server.login →
    answersTo (notFromLogin server.login) (other.answers arrivals) =
      answersTo (notFromLogin server.login) (server.answers arrivals)

theorem refusesBlindly_run (server : Server) (arrivals : List Arrival) :
    RefusesBlindly server arrivals where
  others := answersTo_answers (onlyMatters_fromLogin server.login) arrivals
  state := after_arrivalsOf (onlyMatters_fromLogin server.login) arrivals
  alike := by
    intro other sameLogin
    rw [answersTo_notFromLogin, ← sameLogin, answersTo_notFromLogin]

end Server

end EventConsole.Demo
