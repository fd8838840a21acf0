import EventConsole.Client.Headers
import EventConsole.Event
import EventConsole.Json.Printer
import EventConsole.Json.Reader
import EventConsole.Route
import EventConsole.StatsSnapshot
import EventConsole.Url.Parse

/-!
Contract: calls to the server, and what their answers do to the session.

A call is prepared from the credential of the session, sent, and concluded with
what came back. An answer of 401 ends the session and asks for the login screen;
a login that is accepted starts one.

Owns: requests, answers, the outcome of a call, and the session.

Does not own: how a request travels.
-/

namespace EventConsole

open Json

/-- The credential in use and the route that is wanted. -/
structure Session where
  credential : Option Credential
  navigator : Navigator
deriving DecidableEq, Repr

namespace Session

def new (route : Route) : Session := ⟨none, Navigator.new route⟩

def isAuthenticated (session : Session) : Bool := session.credential.isSome

def goto (session : Session) (route : Route) : Session :=
  { session with navigator := session.navigator.goto route }

/-- Forgets the credential and asks for the login screen. -/
def logout (session : Session) : Session := { session with credential := none }.goto .login

/-- Whether a protected screen may be entered; asks for the login screen if not. -/
def requireAuth (session : Session) : Bool × Session :=
  if session.isAuthenticated then (true, session) else (false, session.goto .login)

end Session

inductive Method where
  | get
  | other (name : String)
deriving DecidableEq, Repr

structure Request where
  method : Method
  url : String
  headers : List (String × String)
  body : Option String
deriving DecidableEq, Repr

/-- What came of sending a request. -/
inductive Answer where
  /-- No connection, or none that held until the status arrived. -/
  | none
  /-- A status, and the body unless the connection broke before its end. -/
  | status (code : Nat) (body : Option (List UInt8))
deriving DecidableEq, Repr

def isSuccess (status : Nat) : Bool := 200 ≤ status && status < 300

/-- The options of a call beside its endpoint. -/
structure CallOptions where
  method : Method
  headers : List (String × String)
  body : Option Value

def CallOptions.default : CallOptions := ⟨.get, [], .none⟩

/-- The reason that an error body gives, or the status when it gives none. -/
def errorMessage (status : Nat) (body : List Char) : String :=
  match ((readChars? body).bind (·.member? "error")).bind Value.text? with
  | some reason => if reason.isEmpty then "HTTP " ++ toString status else reason
  | .none => "HTTP " ++ toString status

structure Client where
  /-- Start of all endpoint URLs. -/
  baseUrl : String
deriving DecidableEq, Repr

namespace Client

/-- A client of the server at an origin; its endpoints lie under `/api`. -/
def new (origin : String) : Except Failure Client :=
  match Url.baseUrl origin with
  | .ok baseUrl => .ok ⟨baseUrl⟩
  | .error fault => .error (.invalidUrl fault)

def url (client : Client) (endpoint : String) : String := client.baseUrl ++ endpoint

/-- The request of a call made with the credential of the session. -/
def prepare (client : Client) (credential : Option Credential) (endpoint : String)
    (options : CallOptions) : Except Failure Request :=
  match credential with
  | .none => .error .unauthenticated
  | some credential =>
      match Headers.merge credential options.headers with
      | .error failure => .error failure
      | .ok headers =>
          .ok ⟨options.method, client.url endpoint, headers.entries,
            options.body.map Value.compact⟩

/-- The request that tries a user name and password. -/
def loginRequest (client : Client) (credential : Credential) : Request :=
  ⟨.get, client.url "/health", [(Headers.authorization, credential.headerValue)], .none⟩

/-- The JSON value of a successful answer. -/
def readBody (body : Option (List UInt8)) : Except Failure Value :=
  match body with
  | .none => .error .transport
  | some bytes =>
      match (Text.Utf8.decode? bytes).bind readChars? with
      | some value => .ok value
      | .none => .error .malformed

/-- The outcome of a call, and the session after it. -/
def conclude (session : Session) (answer : Answer) : Except Failure Value × Session :=
  match answer with
  | .none => (.error .transport, session)
  | .status code body =>
      if code = 401 then (.error .unauthorized, session.logout)
      else if isSuccess code then (readBody body, session)
      else
        (.error (.refused code (errorMessage code (Text.Utf8.decodeLossy (body.getD [])))), session)

/-- Whether a login was accepted, and the session after it. -/
def concludeLogin (session : Session) (credential : Credential) (answer : Answer) :
    Except Failure Bool × Session :=
  match answer with
  | .none => (.error .transport, session)
  | .status code _ =>
      if isSuccess code then (.ok true, { session with credential := some credential })
      else (.ok false, session)

/-- Reads the value of a call as a domain type. -/
def typed {α : Type} (decode : Value → Option α) (outcome : Except Failure Value) :
    Except Failure α :=
  match outcome with
  | .error failure => .error failure
  | .ok value =>
      match decode value with
      | some decoded => .ok decoded
      | .none => .error .malformed

def eventsEndpoint (page limit : Nat) : String :=
  "/events?page=" ++ toString page ++ "&limit=" ++ toString limit

/-- The first 200 events in one page. -/
def allEventsEndpoint : String := "/events?limit=200"

def statsEndpoint : String := "/stats"

def healthEndpoint : String := "/health"

end Client

end EventConsole
