import EventConsole.Json.Value
import EventConsole.Natural
import EventConsole.SortedMap

/-!
Contract: the store of events and its pages.

Events stand in descending order of the text of their timestamp; events with
equal texts keep their order. Pages are counted from one.
-/

namespace EventConsole.Demo

open Json

structure Store where
  events : List Value

namespace Store

def notBefore (a b : Value) : Bool :=
  compare (a.textMember "timestamp") (b.textMember "timestamp") != .lt

def ofEvents (events : List Value) : Store := ⟨events.mergeSort notBefore⟩

end Store

/-- Page number and page size, each at least one. -/
structure PageRequest where
  page : Nat
  limit : Nat
deriving DecidableEq, Repr

namespace PageRequest

def defaultLimit : Nat := 50

def maximumLimit : Nat := 200

/-- A parameter that is a positive number. -/
def positive? (value : Option String) : Option Nat :=
  match value.bind fun text => Text.signed64? (Text.trim text.toList) with
  | some number => if 1 ≤ number then some number.toNat else none
  | none => none

/-- What is missing, no number or below one counts as the default; a size is
at most 200. -/
def ofParameters (parameters : SortedMap String String) : PageRequest where
  page := (positive? (parameters.get? "page")).getD 1
  limit := min ((positive? (parameters.get? "limit")).getD defaultLimit) maximumLimit

end PageRequest

namespace Store

/-- The events of a page. -/
def page (store : Store) (request : PageRequest) : List Value :=
  (store.events.drop ((request.page - 1) * request.limit)).take request.limit

def pageCount (store : Store) (limit : Nat) : Nat := (store.events.length + (limit - 1)) / limit

def pageJson (store : Store) (request : PageRequest) : Value :=
  let data := store.page request
  .object
    [("status", .string "success"),
      ("count", .ofNat data.length),
      ("total", .ofNat store.events.length),
      ("page", .ofNat request.page),
      ("limit", .ofNat request.limit),
      ("totalPages", .ofNat (store.pageCount request.limit)),
      ("data", .array data)]

end Store

end EventConsole.Demo
