import EventConsole.CommandLine.Run

/-!
Contract: the command.

Owns: where the profiles file and the log are, and talking to the user until the
server is known.

Does not own: what is said, asked and decided. A console needs a terminal in raw
mode and a network connection, which this program has not; a run that would open
one says so and ends with an error.
-/

namespace EventConsole.CommandLine

def programName : String := "siemtop"

/-- The directory of the user's settings, if there is one. -/
def settingsDirectory? : IO (Option String) := do
  match ← IO.getEnv "XDG_CONFIG_HOME" with
  | some directory => return some (directory ++ "/siemtop")
  | none => return (← IO.getEnv "HOME").map fun home => home ++ "/.config/siemtop"

def settingsDirectory : IO String := return (← settingsDirectory?).getD "siemtop"

def stateDirectory : IO String := do
  match ← IO.getEnv "XDG_STATE_HOME" with
  | some directory => return directory ++ "/siemtop"
  | none => settingsDirectory

/-- The text of a file that can be read. -/
def readText? (path : String) : IO (Option String) := do
  try return some (← IO.FS.readFile path)
  catch _ => return none

/-- Writes the profiles file. A run goes on when that fails. -/
def saveProfiles (profiles : Profiles) : IO Unit := do
  let directory ← settingsDirectory
  try
    IO.FS.createDirAll directory
    IO.FS.writeFile (directory ++ "/profiles.json") profiles.fileText
  catch _ => return ()

/-- Plays a dialogue with the user. -/
def Dialogue.converse {α : Type} : Dialogue α → IO α
  | .finish result => return result
  | .say text next => do
      IO.eprint text
      next.converse
  | .ask question next => do
      IO.eprint question
      (next (← (← IO.getStdin).getLine)).converse
  | .save profiles next => do
      saveProfiles profiles
      next.converse

/-- Begins the log when a filter text is set. -/
def beginLog : IO Unit := do
  match ← IO.getEnv "SIEMTOP_LOG" with
  | none => return ()
  | some text =>
      let directory ← stateDirectory
      IO.FS.createDirAll directory
      let path := directory ++ "/siemtop.log"
      IO.FS.withFile path .append fun log => do
        if LogFilter.admits text LogFilter.startRecord then
          log.putStrLn (" INFO siemtop: logging enabled log=" ++ path)

def runCommand (arguments : List String) : IO UInt32 := do
  match parse arguments with
  | .error refusal =>
      IO.eprintln (refusal.message programName)
      return 0
  | .ok arguments =>
      beginLog
      let file ← readText? ((← settingsDirectory) ++ "/profiles.json")
      let target ← (dialogue arguments (Profiles.load file)).converse
      let ending := conclude target arguments.dryRun
      IO.print ending.output
      IO.eprint ending.errors
      match ending.console with
      | none => return UInt32.ofNat ending.code
      | some _ =>
          IO.eprintln "Error: no terminal to open the console in"
          return 1

end EventConsole.CommandLine

def main (arguments : List String) : IO UInt32 :=
  EventConsole.CommandLine.runCommand arguments
