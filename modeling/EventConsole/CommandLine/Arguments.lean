/-!
Contract: the arguments of the command.

Options may be repeated, and the last one counts. The only argument that is no
option is the URL. An option that takes a value at the end of the arguments
takes back an earlier value.
-/

namespace EventConsole.CommandLine

structure Arguments where
  url : Option String
  profile : Option String
  user : Option String
  save : Bool
  demo : Bool
  dryRun : Bool
deriving DecidableEq, Repr

def Arguments.none : Arguments := ⟨.none, .none, .none, false, false, false⟩

/-- Why there is nothing to run. -/
inductive Refusal where
  | help
  | unexpected
deriving DecidableEq, Repr

def usage (program : String) : String :=
  "Usage: " ++ program ++ " [--profile NAME|-P NAME] [--save] [--demo] [--user NAME|-u NAME] " ++
    "[--dry-run] [http://HOST:PORT]"

def Refusal.message (program : String) : Refusal → String
  | .help => usage program
  | .unexpected => "Unexpected argument. " ++ usage program

/-- An argument by its role. -/
inductive Word where
  | help
  | profile
  | user
  | save
  | demo
  | dryRun
  /-- An option with its value in the same argument. -/
  | profileIs (name : String)
  | userIs (name : String)
  | other (text : String)
deriving DecidableEq, Repr

/-- The text after an option's equals sign. -/
def valueAfter? (start argument : String) : Option String :=
  if start.toList.isPrefixOf argument.toList then
    some (String.ofList (argument.toList.drop start.length))
  else .none

def Word.ofText (argument : String) : Word :=
  match argument with
  | "-h" | "--help" => .help
  | "--profile" | "-P" => .profile
  | "--user" | "-u" => .user
  | "--save" => .save
  | "--demo" => .demo
  | "--dry-run" => .dryRun
  | _ =>
      match valueAfter? "--profile=" argument, valueAfter? "--user=" argument with
      | some name, _ => .profileIs name
      | .none, some name => .userIs name
      | .none, .none => .other argument

/-- A value that is not empty replaces the one before. -/
def orKeep (value : String) (before : Option String) : Option String :=
  if value.isEmpty then before else some value

/-- Reads arguments from left to right after those already read. -/
def parseAfter (found : Arguments) : List String → Except Refusal Arguments
  | [] => .ok found
  | argument :: rest =>
      match Word.ofText argument with
      | .help => .error .help
      | .profile =>
          match rest with
          | [] => .ok { found with profile := .none }
          | name :: rest => parseAfter { found with profile := some name } rest
      | .user =>
          match rest with
          | [] => .ok { found with user := .none }
          | name :: rest => parseAfter { found with user := some name } rest
      | .save => parseAfter { found with save := true } rest
      | .demo => parseAfter { found with demo := true } rest
      | .dryRun => parseAfter { found with dryRun := true } rest
      | .profileIs name => parseAfter { found with profile := orKeep name found.profile } rest
      | .userIs name => parseAfter { found with user := orKeep name found.user } rest
      | .other text =>
          if found.url.isNone then parseAfter { found with url := some text } rest
          else .error .unexpected

/-- The meaning of the arguments after the program's name. -/
def parse (arguments : List String) : Except Refusal Arguments :=
  parseAfter Arguments.none arguments

end EventConsole.CommandLine
