import EventConsole.Json.Decode
import EventConsole.Json.Printer
import EventConsole.Json.Reader
import EventConsole.SortedMap

/-!
Contract: named servers to connect to.

Profiles are kept in a file of JSON text. A file that cannot be read as profiles
counts as empty, also when only one of its profiles is malformed. Passwords are
never part of it.

Owns: the file format, and what a run is to do about its profile.
-/

namespace EventConsole

open Json

structure ProfileEntry where
  url : String
  user : Option String
deriving DecidableEq, Repr

structure Profiles where
  entries : SortedMap String ProfileEntry
  version : UInt32

namespace ProfileEntry

def ofJson? (value : Value) : Option ProfileEntry := do
  let field ← value.singleFields? ["url", "user"]
  return ⟨← (← field "url").text?, ← Value.optional? Value.text? (field "user")⟩

/-- An entry without a user has no such member. -/
def toJson (entry : ProfileEntry) : Value :=
  .object (("url", .string entry.url) ::
    (entry.user.map fun user => ("user", Value.string user)).toList)

end ProfileEntry

namespace Profiles

def empty : Profiles := ⟨SortedMap.empty, 0⟩

/-- Profiles by name; of several with one name the last counts. -/
def entriesOfJson? (value : Value) : Option (SortedMap String ProfileEntry) := do
  let members ← value.members?
  let entries ← members.mapM fun (name, item) => do return (name, ← ProfileEntry.ofJson? item)
  return SortedMap.ofList entries

def ofJson? (value : Value) : Option Profiles := do
  let field ← value.singleFields? ["profiles", "version"]
  return {
    entries := ← Value.defaulting? entriesOfJson? SortedMap.empty (field "profiles")
    version := ← Value.defaulting? Value.word32? 0 (field "version") }

def toJson (profiles : Profiles) : Value :=
  .object
    [("profiles", .object (profiles.entries.entries.map fun entry => (entry.1, entry.2.toJson))),
      ("version", .ofNat profiles.version.toNat)]

/-- The profiles of a file text. -/
def ofText? (text : String) : Option Profiles := (readRecord? text).bind ofJson?

/-- The profiles of a file; none if it is missing or unreadable. -/
def load (file : Option String) : Profiles := (file.bind ofText?).getD empty

/-- The text of the file that holds the profiles. -/
def fileText (profiles : Profiles) : String := profiles.toJson.pretty

def get? (profiles : Profiles) (name : String) : Option ProfileEntry := profiles.entries.get? name

def insert (profiles : Profiles) (name : String) (entry : ProfileEntry) : Profiles :=
  { profiles with entries := profiles.entries.insert name entry }

def names (profiles : Profiles) : List String := profiles.entries.keys

end Profiles

/-- What a run was told about its server. -/
structure ProfileRequest where
  name : Option String
  url : Option String
  user : Option String
deriving DecidableEq, Repr

/-- What a run is to do about its profile. -/
inductive ProfileChoice where
  /-- Use a server that was given. -/
  | direct (entry : ProfileEntry)
  /-- Use a server from the file. -/
  | loaded (entry : ProfileEntry)
  /-- Ask which of the profiles to use. -/
  | select (names : List String)
  /-- Ask for the data of a new profile. -/
  | create (name : String)
  | nothing
deriving DecidableEq, Repr

/-- A given URL comes first, then a named profile, in which a given user
replaces the stored one. -/
def ProfileRequest.choose (request : ProfileRequest) (profiles : Profiles) : ProfileChoice :=
  match request.url, request.name with
  | some url, _ => .direct ⟨url, request.user⟩
  | none, some name =>
      match profiles.get? name with
      | some entry => .loaded { entry with user := request.user <|> entry.user }
      | none => .create name
  | none, none => if profiles.entries.isEmpty then .nothing else .select profiles.names

end EventConsole
