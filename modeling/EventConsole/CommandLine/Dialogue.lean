import EventConsole.CommandLine.Arguments
import EventConsole.Natural
import EventConsole.Profiles

/-!
Contract: what a run says and asks until it knows its server.

A dialogue is a tree of messages, questions and writes of the profiles file,
with a result at every leaf. It is played against a text of answers, or by a
terminal.
-/

namespace EventConsole.CommandLine

inductive Dialogue (α : Type) where
  | finish (result : α)
  /-- Writes a text. -/
  | say (text : String) (next : Dialogue α)
  /-- Writes a question and reads a line. -/
  | ask (question : String) (next : String → Dialogue α)
  /-- Puts profiles into the file. -/
  | save (profiles : Profiles) (next : Dialogue α)

/-- What a run goes on with. -/
inductive Target where
  /-- There is nothing to do. -/
  | nothing
  /-- The demo server. -/
  | demo
  | server (entry : ProfileEntry)
deriving DecidableEq, Repr

/-! ### Answers -/

def trimmed (line : String) : String := String.ofList (Text.trim line.toList)

def isYes (line : String) : Bool :=
  (trimmed line).toList.map Char.toLower ∈ [['y'], ['y', 'e', 's']]

/-- The item that a line chooses by its number, counted from one. -/
def chosen? (names : List String) (line : String) : Option String :=
  match Text.natural? (powerOf 2 64) (Text.trim line.toList) with
  | some (index + 1) => names[index]?
  | _ => none

/-! ### Dialogues -/

def demoName : String := "demo"

def overwriteQuestion (name : String) : String :=
  "Overwrite existing profile '" ++ name ++ "'? [y/N]: "

/-- Saves a given server under a name: at once when the name is new, else only
when that is asked for. -/
def saveDirect (profiles : Profiles) (name : String) (entry : ProfileEntry) (overwrite : Bool) :
    Dialogue Target :=
  let saved := Dialogue.save (profiles.insert name entry) (.finish (.server entry))
  match profiles.get? name with
  | none => saved
  | some existing =>
      if existing = entry then .finish (.server entry)
      else if overwrite then saved
      else .ask (overwriteQuestion name) fun line =>
        if isYes line then saved else .finish (.server entry)

/-- The profiles to choose from, the demo among them. -/
def selectable (names : List String) : List String :=
  if names.contains demoName then names else names ++ [demoName]

def menu (names : List String) : String :=
  "Select profile:\n" ++
    String.join (names.zipIdx.map fun (name, index) =>
      "  " ++ toString (index + 1) ++ ". " ++ name ++ "\n")

def select (profiles : Profiles) (names : List String) : Dialogue Target :=
  let names := selectable names
  .say (menu names) (.ask "Enter number (or blank to abort): " fun line =>
    match chosen? names line with
    | none => .finish .nothing
    | some name =>
        if name = demoName then .finish .demo
        else
          match profiles.get? name with
          | some entry => .finish (.server entry)
          | none => .finish .nothing)

/-- Text that was typed, unless it is empty. -/
def nonEmpty (text : String) : Option String := if text.isEmpty then none else some text

def create (profiles : Profiles) (name : String) : Dialogue Target :=
  .say ("Profile '" ++ name ++ "' does not exist yet.\n")
    (.ask "Enter server URL (http://HOST:PORT): " fun url =>
      if (trimmed url).isEmpty then .finish .nothing
      else .ask "Enter username (or leave blank): " fun user =>
        let entry : ProfileEntry := ⟨trimmed url, nonEmpty (trimmed user)⟩
        .save (profiles.insert name entry) (.finish (.server entry)))

def isDemo (arguments : Arguments) : Bool :=
  arguments.demo || arguments.profile == some demoName

/-- The dialogue of a run with its arguments and the profiles of the file. -/
def dialogue (arguments : Arguments) (profiles : Profiles) : Dialogue Target :=
  if isDemo arguments then .finish .demo
  else
    let request : ProfileRequest := ⟨arguments.profile, arguments.url, arguments.user⟩
    match request.choose profiles with
    | .direct entry =>
        match arguments.profile with
        | none => .finish (.server entry)
        | some name => saveDirect profiles name entry arguments.save
    | .loaded entry => .finish (.server entry)
    | .select names => select profiles names
    | .create name => create profiles name
    | .nothing => .say "No URL provided and no profiles to select.\n" (.finish .nothing)

/-! ### Playing a dialogue -/

/-- What was typed and not yet read, what was written, and the profiles file. -/
structure Transcript where
  input : List Char
  written : String
  file : Option String
deriving DecidableEq, Repr

/-- A line with its end, and the input after it. -/
def splitLine : List Char → List Char × List Char
  | [] => ([], [])
  | c :: rest =>
      if c = '\n' then (['\n'], rest)
      else
        let (line, after) := splitLine rest
        (c :: line, after)

def Transcript.write (transcript : Transcript) (text : String) : Transcript :=
  { transcript with written := transcript.written ++ text }

def Dialogue.play {α : Type} : Dialogue α → Transcript → α × Transcript
  | .finish result, transcript => (result, transcript)
  | .say text next, transcript => next.play (transcript.write text)
  | .ask question next, transcript =>
      let (line, rest) := splitLine transcript.input
      (next (String.ofList line)).play { transcript.write question with input := rest }
  | .save profiles next, transcript =>
      next.play { transcript with file := some profiles.fileText }

end EventConsole.CommandLine
