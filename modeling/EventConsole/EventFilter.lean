import EventConsole.Event
import EventConsole.Text.LetterCase

/-!
Contract: which events of a page the reader asked to see.

The search text is looked for in the message and in the raw log line, both
lower-cased. Severity and type must be equal when they are set; empty means any.
-/

namespace EventConsole

structure EventFilter where
  search : String
  severity : String
  eventType : String
deriving DecidableEq, Repr, Inhabited

namespace EventFilter

def none : EventFilter := ⟨"", "", ""⟩

def isActive (filter : EventFilter) : Bool :=
  !filter.search.isEmpty || !filter.severity.isEmpty || !filter.eventType.isEmpty

/-- Whether a text occurs in another without gaps. -/
def occursIn (needle : List Char) : List Char → Bool
  | [] => needle.isEmpty
  | c :: rest => needle.isPrefixOf (c :: rest) || occursIn needle rest

/-- Whether a field holds the search text in any letter case. -/
def hits (search : String) (field : Option String) : Bool :=
  field.any fun text =>
    occursIn (Text.lowerCase search.toList) (Text.lowerCase text.toList)

/-- Whether a field is exactly the wanted text, if one is wanted. -/
def equals (wanted : String) (field : Option String) : Bool :=
  wanted.isEmpty || field == some wanted

def admits (filter : EventFilter) (event : Event) : Bool :=
  (filter.search.isEmpty || hits filter.search event.message ||
      hits filter.search event.rawLog) &&
    equals filter.severity event.severity && equals filter.eventType event.eventType

end EventFilter

end EventConsole
