import SiteSearch.Options

/-!
# Arguments

What can be written on the command line: a command, its options and its words. Options of the
whole program may stand before or after the command, and the later place wins. An option that
takes a value has it in the next argument, after `=`, or, in its short form, glued to it;
short switches may be clustered; `--` ends the options. No option may be repeated in one
place.
-/

namespace SiteSearch.CommandLine

open SiteSearch.Text

structure SearchArguments where
  words : List String
  typeFilter : Option String := none
  doctype : Option String := none
  year : Option Int32 := none
  sort : SortOrder := .standard
  exact : Bool := false
  limit : Option Int64 := none
  /-- The result is wanted as JSON. -/
  json : Bool := false
  deriving DecidableEq, Repr

def SearchArguments.query (args : SearchArguments) : String := " ".intercalate args.words

/-- What is to be done. -/
inductive Command where
  /-- Ask the engine. -/
  | search (args : SearchArguments)
  /-- Show what the engine would be asked. -/
  | explain (args : SearchArguments)
  /-- See whether the engine is there. -/
  | health
  /-- Show the settings. -/
  | config
  deriving DecidableEq, Repr

/-- A command and the options of the whole program. -/
structure Arguments where
  command : Command
  /-- A file with settings. -/
  config : Option String
  logLevel : Option String
  /-- The address of the engine. -/
  apiUrl : Option String
  deriving DecidableEq, Repr

/-- Why a command line is not carried out. -/
inductive UsageError where
  | displayHelp
  | displayVersion
  | nothingGiven
  /-- There are options, but no command. -/
  | missingCommand
  | invalidCommand
  | unknownArgument
  | missingWords
  /-- An option lacks its value. -/
  | missingValue
  /-- An option's value is not of its kind. -/
  | badValue
  | repeatedOption
  /-- A switch was given a value. -/
  | unwantedValue
  deriving DecidableEq, Repr

/-! ## Options -/

/-- The options. -/
inductive Flag where
  | config
  | logLevel
  | apiUrl
  | type
  | doctype
  | year
  | sort
  | exact
  | limit
  | json
  | help
  | version
  deriving DecidableEq, Repr

namespace Flag

/-- The long form of an option, without its dashes. -/
def long : Flag → String
  | .config => "config"
  | .logLevel => "log-level"
  | .apiUrl => "api-url"
  | .type => "type"
  | .doctype => "doctype"
  | .year => "year"
  | .sort => "sort"
  | .exact => "exact"
  | .limit => "limit"
  | .json => "json"
  | .help => "help"
  | .version => "version"

/-- The short form of an option, without its dash. -/
def short? : Flag → Option Char
  | .config => some 'c'
  | .logLevel => some 'l'
  | .type => some 't'
  | .doctype => some 'd'
  | .year => some 'y'
  | .sort => some 's'
  | .exact => some 'e'
  | .limit => some 'n'
  | .help => some 'h'
  | .version => some 'V'
  | .apiUrl | .json => none

def takesValue : Flag → Bool
  | .exact | .json | .help | .version => false
  | _ => true

/-- The value is of the option's kind. -/
def accepts (flag : Flag) (value : String) : Bool :=
  match flag with
  | .year => (readInt32? value).isSome
  | .limit => (readInt64? value).isSome
  | .sort => (SortOrder.ofName? value).isSome
  | _ => true

/-- The options of the whole program, which may stand in every place. -/
def shared : List Flag := [.config, .logLevel, .apiUrl, .help]

end Flag

/-- A place on the command line: before the command, or after one. -/
structure Place where
  flags : List Flag
  /-- The commands that may follow. -/
  commands : List String
  /-- Words may stand here. -/
  hasWords : Bool

namespace Place

def commandNames : List String := ["search", "explain", "health", "config"]

/-- Before the command. -/
def top : Place := ⟨Flag.shared ++ [.version], "help" :: commandNames, false⟩

/-- After a command that takes words. -/
def searching : Place :=
  ⟨Flag.shared ++ [.type, .doctype, .year, .sort, .exact, .limit, .json], [], true⟩

/-- After a command that takes none. -/
def bare : Place := ⟨Flag.shared, [], false⟩

def long? (place : Place) (name : String) : Option Flag := place.flags.find? (·.long == name)

def short? (place : Place) (c : Char) : Option Flag := place.flags.find? (·.short? == some c)

end Place

/-- What was read in a place so far. -/
structure Reading where
  /-- The options and their values; a switch has an empty one. -/
  given : List (Flag × String) := []
  words : List String := []
  /-- An option that waits for its value, or whose value was not looked at yet. -/
  waiting : Option (Flag × Option String) := none
  deriving DecidableEq, Repr

namespace Reading

/-- An option with its value, or a switch. -/
def take (reading : Reading) (flag : Flag) (value : String) : Except UsageError Reading :=
  if flag = .help then .error .displayHelp
  else if flag = .version then .error .displayVersion
  else if (reading.given.lookup flag).isSome then .error .repeatedOption
  else if flag.accepts value then .ok { reading with given := reading.given ++ [(flag, value)] }
  else .error .badValue

/-- The option that waits is taken. -/
def settle (reading : Reading) : Except UsageError Reading :=
  match reading.waiting with
  | none => .ok reading
  | some (_, none) => .error .missingValue
  | some (flag, some value) => { reading with waiting := none }.take flag value

/-- An option waits for a value. -/
def awaits (reading : Reading) : Option Flag :=
  match reading.waiting with
  | some (flag, none) => some flag
  | _ => none

/-- An option whose value is the next argument. -/
def await (reading : Reading) (flag : Flag) : Except UsageError Reading := do
  return { ← reading.settle with waiting := some (flag, none) }

/-- An option with a value of its own, or a switch. -/
def takeNow (reading : Reading) (flag : Flag) (value : String) : Except UsageError Reading := do
  (← reading.settle).take flag value

/-- An argument of the long form, without its dashes. -/
def long (reading : Reading) (place : Place) (text : List Char) : Except UsageError Reading :=
  let name := text.takeWhile (· != '=')
  let value := match text.drop name.length with
    | '=' :: value => some (String.ofList value)
    | _ => none
  match place.long? (.ofList name) with
  | none => .error .unknownArgument
  | some flag =>
    match flag.takesValue, value with
    | true, none => reading.await flag
    | true, some value => reading.takeNow flag value
    | false, none => reading.takeNow flag ""
    | false, some _ => .error .unwantedValue

/-- An argument of the short form, without its dash: switches, and at the end an option with
its value glued to it or to come. -/
def short (reading : Reading) (place : Place) : List Char → Except UsageError Reading
  | [] => .ok reading
  | c :: cs =>
    match place.short? c with
    | none => .error .unknownArgument
    | some flag =>
      if flag.takesValue then
        match cs with
        | [] => reading.await flag
        | '=' :: value => reading.takeNow flag (.ofList value)
        | value => reading.takeNow flag (.ofList value)
      else
        match reading.takeNow flag "" with
        | .error e => .error e
        | .ok reading => reading.short place cs

/-- An argument that is no option. -/
def word (reading : Reading) (place : Place) (plainOnly : Bool) (text : String) :
    Except UsageError Reading :=
  if place.hasWords then do
    let reading ← reading.settle
    return { reading with words := reading.words ++ [text] }
  else if place.commands.isEmpty || (plainOnly && place.commands.contains text) then
    .error .unknownArgument
  else .error .invalidCommand

/--
The arguments of a place, up to a command if one may follow: what was read, and the command
with the arguments after it. After `--`, which `plainOnly` tells, all arguments are words.
-/
def arguments (place : Place) : (plainOnly : Bool) → Reading → List String →
    Except UsageError (Reading × Option (String × List String))
  | _, reading, [] => .ok (reading, none)
  | true, reading, text :: rest =>
    match reading.word place true text with
    | .error e => .error e
    | .ok reading => arguments place true reading rest
  | false, reading, text :: rest =>
    if reading.awaits.isNone && place.commands.contains text then .ok (reading, some (text, rest))
    else if text = "--" then arguments place true reading rest
    else
      let next := match text.toList with
        | '-' :: '-' :: cs => reading.long place cs
        | '-' :: c :: cs => reading.short place (c :: cs)
        | _ => match reading.awaits with
          | some flag => .ok { reading with waiting := some (flag, some text) }
          | none => reading.word place false text
      match next with
      | .error e => .error e
      | .ok reading => arguments place false reading rest

def value? (reading : Reading) (flag : Flag) : Option String := reading.given.lookup flag

def searchArguments (reading : Reading) : SearchArguments where
  words := reading.words
  typeFilter := reading.value? .type
  doctype := reading.value? .doctype
  year := (reading.value? .year).bind readInt32?
  sort := ((reading.value? .sort).bind SortOrder.ofName?).getD .standard
  exact := (reading.value? .exact).isSome
  limit := (reading.value? .limit).bind readInt64?
  json := (reading.value? .json).isSome

end Reading

/-! ## Command lines -/

/-- The arguments of a place after a command. -/
def readPlace (place : Place) (texts : List String) : Except UsageError Reading := do
  let (reading, _) ← Reading.arguments place false {} texts
  let reading ← reading.settle
  if place.hasWords && reading.words.isEmpty then .error .missingWords
  return reading

/-- The command of a name, with the arguments after it. -/
def readCommand (name : String) (texts : List String) : Except UsageError (Command × Reading) :=
  match name with
  | "search" => do
    let reading ← readPlace .searching texts
    return (.search reading.searchArguments, reading)
  | "explain" => do
    let reading ← readPlace .searching texts
    return (.explain reading.searchArguments, reading)
  | "health" => do return (.health, ← readPlace .bare texts)
  | "config" => do return (.config, ← readPlace .bare texts)
  | _ =>
    match texts with
    | [] => .error .displayHelp
    | [text] => if Place.top.commands.contains text then .error .displayHelp
      else .error .invalidCommand
    | _ => .error .invalidCommand

/-- A command line, without the name of the program. -/
def Arguments.read (texts : List String) : Except UsageError Arguments := do
  let (outer, command) ← Reading.arguments .top false {} texts
  match command with
  | none =>
    let outer ← outer.settle
    if outer.given.isEmpty then .error .nothingGiven else .error .missingCommand
  | some (name, rest) =>
    let (command, inner) ← readCommand name rest
    let outer ← outer.settle
    let shared (flag : Flag) := (inner.value? flag).or (outer.value? flag)
    return {
      command
      config := shared .config
      logLevel := shared .logLevel
      apiUrl := shared .apiUrl }

end SiteSearch.CommandLine
