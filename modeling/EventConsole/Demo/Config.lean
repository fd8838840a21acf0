import EventConsole.Natural

/-!
Contract: what the demo server is told by its environment and arguments.

A value that is missing or cannot be read counts as the default.
-/

namespace EventConsole.Demo

structure Config where
  user : String
  password : String
  /-- Number of generated events. -/
  events : UInt64
  seed : UInt64
deriving DecidableEq, Repr

namespace Config

def default : Config := ⟨"admin", "admin", 150, 0x51357019⟩

/-- Settings from named values. -/
def ofEnvironment (value? : String → Option String) : Config where
  user := (value? "SIEMTOP_DEMO_USER").getD default.user
  password := (value? "SIEMTOP_DEMO_PASSWORD").getD default.password
  events := ((value? "SIEMTOP_DEMO_EVENTS").bind Text.word64?).getD default.events
  seed := ((value? "SIEMTOP_DEMO_SEED").bind Text.word64?).getD default.seed

end Config

/-- The port texts that the long and the short option give. -/
structure PortOptions where
  long : Option String
  short : Option String

def longPortStart : String := "--port="

/-- Reads options from left to right; a later one of a form replaces an earlier one. -/
def portOptions (found : PortOptions) : List String → PortOptions
  | [] => found
  | "--port" :: value :: rest => portOptions { found with long := some value } rest
  | ["--port"] => { found with long := none }
  | "-p" :: value :: rest => portOptions { found with short := some value } rest
  | ["-p"] => { found with short := none }
  | argument :: rest =>
      if argument.startsWith longPortStart then
        portOptions
          { found with long := some (argument.drop longPortStart.length).toString } rest
      else portOptions found rest

/-- The port that arguments ask for; the long option wins over the short one. -/
def port (arguments : List String) (default : Nat) : Nat :=
  let found := portOptions ⟨none, none⟩ arguments
  ((found.long <|> found.short).bind fun text => Text.natural? 65536 text.toList).getD default

def usage : String := "Usage: siemtop_demo [--port N|-p N]\n"

def asksForHelp (arguments : List String) : Bool :=
  arguments.any fun argument => argument == "-h" || argument == "--help"

end EventConsole.Demo
