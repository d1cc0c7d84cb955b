import SiteSearch.CommandLine.Run
import SiteSearch.Engine.Link

/-!
# The program

Gathers the arguments, the variables of the environment and the files with settings, carries
out the command line, and prints what comes of it. The program reaches no engine of its own
accord: a command that asks one is told so.
-/

namespace SiteSearch.Program

open SiteSearch.CommandLine

/-- The variables of the environment that may hold settings. -/
def variableNames : List String :=
  Settings.fields.map fun field => "PARISH_SEARCH__" ++ field.name.toUpper

/-- The variables that are set. -/
def readVariables : IO (List (String × String)) := do
  let values ← variableNames.mapM fun name => do return (name, ← IO.getEnv name)
  return values.filterMap fun (name, value) => value.map (name, ·)

/-- The text of a file, if it can be read. -/
def readText (path : String) : IO (Option String) := do
  try return some (← IO.FS.readFile path) catch _ => return none

/-- The name of the user's file, without an extension. -/
def userFile : IO String := do
  match ← IO.getEnv "XDG_CONFIG_HOME" with
  | some place => return place ++ "/parish-search/config"
  | none => return ((← IO.getEnv "HOME").getD ".") ++ "/.config/parish-search/config"

/-- All that the command line's settings may come from. -/
def readSurroundings (args : Arguments) : IO Settings.Surroundings := do
  let userFile ← userFile
  let paths := (userFile :: args.config.toList).flatMap fun name =>
    name :: (Settings.withExtensions Settings.Format.all name).map (·.1)
  let texts ← paths.mapM fun path => do return (path, ← readText path)
  return {
    userFile
    text? := fun path => (texts.lookup path).join
    environment := ← readVariables }

/-- What is said of a command line that cannot be carried out. -/
def usageMessage : UsageError → String
  | .displayHelp | .nothingGiven | .missingCommand =>
    "usage: parish-search [OPTIONS] <search|explain|health|config> [ARGUMENTS]"
  | .displayVersion => "parish-search"
  | .invalidCommand => "error: there is no such command"
  | .unknownArgument => "error: unexpected argument"
  | .missingWords => "error: no query was given"
  | .missingValue => "error: an option lacks its value"
  | .badValue => "error: an option has a value that is not of its kind"
  | .repeatedOption => "error: an option is given twice"
  | .unwantedValue => "error: a switch takes no value"

/-- A command line that was asked to explain itself did what it was asked to. -/
def usageStatus : UsageError → UInt32
  | .displayHelp | .displayVersion => 0
  | _ => 2

/-- A failure, what could not be done first and then why. -/
def failureText : List String → String
  | [] => ""
  | [reason] => "Error: " ++ reason
  | first :: reasons => "Error: " ++ first ++ "\n\nCaused by:\n    " ++ "\n    ".intercalate reasons

/-- Carries out a command line. -/
def run (texts : List String) : IO UInt32 := do
  match Arguments.read texts with
  | .error e =>
    if usageStatus e = 0 then IO.println (usageMessage e) else IO.eprintln (usageMessage e)
    return usageStatus e
  | .ok args =>
    let (result, _) := args.run (← readSurroundings args) Engine.link .down
    IO.print result.printed
    if result.failure.isEmpty then return 0
    IO.eprintln (failureText result.failure)
    return 1

end SiteSearch.Program

def main (texts : List String) : IO UInt32 := SiteSearch.Program.run texts
