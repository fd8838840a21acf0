import EventConsole.Demo.Config
import EventConsole.Demo.Sample
import EventConsole.Demo.Stats
import EventConsole.Demo.Store
import EventConsole.Json.Printer
import EventConsole.Text.Base64
import EventConsole.Text.Letter
import EventConsole.Text.Utf8
import EventConsole.Url.PercentEncoding

/-!
Contract: the demo server's answers.

Three endpoints under `/api` answer the methods GET and HEAD to those who know
user and password. A header reads as credentials when it is the word Basic in any
letter case, one space, and the strict Base64 form of `user:password` with white space
around it. Statistics are computed at most once in their lifetime.

Owns: credentials in an authorization header, request targets, the order of checks, and
the cache.
-/

namespace EventConsole.Demo

/-! ### Credentials -/

structure Login where
  user : String
  password : String
deriving DecidableEq, Repr

namespace Login

/-- Characters of which a header can be read as text. -/
def isHeaderText (c : Char) : Bool := c = '\t' || (32 ≤ c.toNat && c.toNat < 127)

/-- Text before and after the first occurrence of a character. -/
def splitFirst? (mark : Char) (text : List Char) : Option (List Char × List Char) :=
  match text.span (· ≠ mark) with
  | (before, _ :: after) => some (before, after)
  | (_, []) => none

def isBasic (scheme : List Char) : Bool := scheme.map Char.toLower = ['b', 'a', 's', 'i', 'c']

/-- User and password in the Base64 form of a text; the first colon separates them. -/
def decode? (encoded : List Char) : Option Login :=
  match (Text.Base64.decode? encoded).bind Text.Utf8.decode? with
  | none => none
  | some text =>
      (splitFirst? ':' text).map fun (user, password) =>
        ⟨String.ofList user, String.ofList password⟩

def ofHeader? (value : String) : Option Login :=
  if value.toList.all isHeaderText then
    match splitFirst? ' ' value.toList with
    | none => none
    | some (scheme, encoded) => if isBasic scheme then decode? (Text.trim encoded) else none
  else none

end Login

open Json

/-! ### Requests -/

structure Request where
  method : String
  /-- Path and query. -/
  target : String
  authorization : Option String
deriving DecidableEq, Repr

inductive Endpoint where
  | health
  | events
  | stats
deriving DecidableEq, Repr

def Endpoint.ofPath? : String → Option Endpoint
  | "/api/health" => some .health
  | "/api/events" => some .events
  | "/api/stats" => some .stats
  | _ => none

/-- The path of a target and its query; a fragment does not count. -/
def splitTarget (target : String) : List Char × List Char :=
  let (path, query) := (target.toList.takeWhile (· ≠ '#')).span (· ≠ '?')
  (path, query.drop 1)

/-- A name or value of a query; a plus sign stands for a space. -/
def queryText (text : List Char) : String :=
  String.ofList (Text.Utf8.decodeLossy
    (Url.percentDecode (text.map fun c => if c = '+' then ' ' else c)))

/-- The named values of a query; later ones replace earlier ones. -/
def queryParameters (query : List Char) : SortedMap String String :=
  let parts := (query.splitOn '&').filter fun part => !part.isEmpty
  SortedMap.ofList (parts.map fun part =>
    let (name, value) := part.span (· ≠ '=')
    (queryText name, queryText (value.drop 1)))

/-! ### Responses -/

structure Response where
  status : Nat
  contentType : Option String
  /-- How to log in. -/
  authenticate : Option String
  /-- The methods that the path answers. -/
  allow : Option String
  body : String
deriving DecidableEq, Repr

namespace Response

def json (value : Value) : Response := ⟨200, some "application/json", none, none, value.compact⟩

def notFound : Response := ⟨404, none, none, none, ""⟩

def notAllowed : Response := ⟨405, none, none, none, ""⟩

def unauthorized : Response where
  status := 401
  contentType := some "application/json"
  authenticate := some "Basic realm=\"Authorization Required\""
  allow := none
  body := (Value.object
    [("error", .string "Unauthorized: invalid login or password")]).compact

def allowing (response : Response) : Response := { response with allow := some "GET,HEAD" }

def withoutBody (response : Response) : Response := { response with body := "" }

end Response

/-! ### Server -/

/-- Statistics with the time at which they were computed. -/
structure CachedStats where
  computedAt : Int
  stats : Stats

structure Server where
  store : Store
  user : String
  password : String
  cache : Option CachedStats
  /-- Milliseconds for which computed statistics are used. -/
  lifetime : Nat

namespace Server

def defaultLifetime : Nat := 10000

/-- A server of given events. -/
def withEvents (config : Config) (events : List Value) : Server :=
  ⟨Store.ofEvents events, config.user, config.password, none, defaultLifetime⟩

/-- A server of events generated for an instant. -/
def new (config : Config) (now : Time.Instant) : Server :=
  withEvents config (generate config.events.toNat config.seed now)

def healthJson : Value :=
  .object [("status", .string "ok"), ("message", .string "SIEM Web API is running")]

/-- The cached statistics while they last. -/
def freshStats? (server : Server) (elapsed : Int) : Option Stats :=
  server.cache.bind fun cached =>
    if elapsed - cached.computedAt < server.lifetime then some cached.stats else none

/-- Statistics from the cache, or computed for `now` and cached. -/
def currentStats (server : Server) (elapsed : Int) (now : Time.Instant) : Stats × Server :=
  match server.freshStats? elapsed with
  | some stats => (stats, server)
  | none =>
      let stats := Stats.compute server.store.events now
      (stats, { server with cache := some ⟨elapsed, stats⟩ })

def admits (server : Server) (request : Request) : Bool :=
  match request.authorization.bind Login.ofHeader? with
  | none => false
  | some login => login.user == server.user && login.password == server.password

/-- The answer of an endpoint to an admitted request. -/
def serve (server : Server) (endpoint : Endpoint) (query : List Char) (elapsed : Int)
    (now : Time.Instant) : Response × Server :=
  match endpoint with
  | .health => (Response.json healthJson, server)
  | .events =>
      (Response.json (server.store.pageJson (PageRequest.ofParameters (queryParameters query))),
        server)
  | .stats =>
      let (stats, server) := server.currentStats elapsed now
      (Response.json stats.toJson, server)

/-- Answers a request that came at a time. -/
def handle (server : Server) (request : Request) (elapsed : Int) (now : Time.Instant) :
    Response × Server :=
  let (path, query) := splitTarget request.target
  match Endpoint.ofPath? (String.ofList path) with
  | none => (Response.notFound, server)
  | some endpoint =>
      let isRead := request.method = "GET" ∨ request.method = "HEAD"
      if server.admits request then
        if isRead then
          let (response, server) := server.serve endpoint query elapsed now
          (if request.method = "HEAD" then response.withoutBody else response, server)
        else (Response.notAllowed.allowing, server)
      else if isRead then
        (if request.method = "HEAD" then Response.unauthorized.withoutBody
          else Response.unauthorized, server)
      else (Response.unauthorized.allowing, server)

end Server

end EventConsole.Demo
