import EventConsole.Client.Session
import EventConsole.CommandLine.Dialogue
import EventConsole.LogFilter.Basic

/-!
Contract: a run of the command from its arguments to its end, or to the console
that it opens.

A run that cannot read its arguments ends before anything else. A server whose
URL cannot be read ends it with an error.
-/

namespace EventConsole.CommandLine

/-- A console to open. -/
structure Opening where
  client : Client
  username : Option String
  /-- The demo server has to be started first. -/
  needsDemo : Bool
deriving DecidableEq, Repr

/-- How a run ends. -/
structure Ending where
  code : Nat
  output : String
  /-- Written behind what the dialogue wrote. -/
  errors : String
  console : Option Opening
deriving DecidableEq, Repr

namespace Ending

def quiet : Ending := ⟨0, "", "", none⟩

def failure (failure : Failure) (cause : String) : Ending :=
  ⟨1, "", "Error: " ++ failure.message ++ "\n\nCaused by:\n    " ++ cause ++ "\n", none⟩

end Ending

def demoUrl : String := "http://127.0.0.1:3232"

/-- Who logs in to the demo server. -/
def demoUser : String := "admin"

/-- The text under an error that tells its cause. -/
def causeText : Failure → String
  | .invalidUrl fault => fault.message
  | failure => failure.message

/-- Opens a console for a server, or only says so. -/
def connect (url : String) (username : Option String) (needsDemo dryRun : Bool) : Ending :=
  match Client.new url with
  | .error failure => Ending.failure failure (causeText failure)
  | .ok client =>
      if dryRun then
        let action :=
          if needsDemo then "would start the demo server and connect to "
          else "would connect to "
        ⟨0, "siemtop: " ++ action ++ client.baseUrl ++ "\n", "", none⟩
      else ⟨0, "", "", some ⟨client, username, needsDemo⟩⟩

def conclude (target : Target) (dryRun : Bool) : Ending :=
  match target with
  | .nothing => Ending.quiet
  | .demo => connect demoUrl (some demoUser) true dryRun
  | .server entry => connect entry.url entry.user false dryRun

/-- What a run finds. -/
structure Setting where
  program : String
  arguments : List String
  input : String
  /-- The filter text for logging, if it is set. -/
  logFilter : Option String
  /-- The profiles file. -/
  file : Option String
deriving DecidableEq, Repr

/-- What a run leaves behind. -/
structure Report where
  code : Nat
  output : String
  errors : String
  file : Option String
  /-- Whether the start was logged, if there is a log. -/
  logged : Option Bool
  console : Option Opening
deriving DecidableEq, Repr

def run (setting : Setting) : Report :=
  match parse setting.arguments with
  | .error refusal =>
      ⟨0, "", refusal.message setting.program ++ "\n", setting.file, none, none⟩
  | .ok arguments =>
      let start : Transcript := ⟨setting.input.toList, "", setting.file⟩
      let (target, transcript) := (dialogue arguments (Profiles.load setting.file)).play start
      let ending := conclude target arguments.dryRun
      { code := ending.code
        output := ending.output
        errors := transcript.written ++ ending.errors
        file := transcript.file
        logged := setting.logFilter.map fun text => LogFilter.admits text LogFilter.startRecord
        console := ending.console }

end EventConsole.CommandLine
