import SiteSearch.Report
import SiteSearch.Settings.Load
import SiteSearch.Engine.Transport
import SiteSearch.CommandLine.Arguments

/-!
# Running commands

A command loads the settings, puts the options of the command line over them, and makes at
most one call of the engine. What it prints and why it failed is told apart.
-/

namespace SiteSearch.CommandLine

open SiteSearch.Engine

/-- What a command leaves behind. -/
structure Result where
  printed : String := ""
  /-- Why it failed: what could not be done, then why. Nothing if it did not fail. -/
  failure : List String := []
  deriving DecidableEq, Repr

/-- A command that printed a text. -/
def Result.ok (text : String) : Result := ⟨text, []⟩

/-- The settings under the options of the command line. -/
def Arguments.settings (args : Arguments) (around : Settings.Surroundings) :
    Except Settings.LoadError Settings := do
  let s ← Settings.load around args.config
  return { s with apiUrl := args.apiUrl.getD s.apiUrl, logLevel := args.logLevel.getD s.logLevel }

/-- The arguments of a search as the input of a form. -/
def SearchArguments.input (args : SearchArguments) : SearchInput where
  query := args.query
  limit := args.limit.map .integer
  typeFilter := args.typeFilter
  doctype := args.doctype
  year := args.year.map fun y => .integer (.ofInt y.toInt)
  sort := some args.sort.name
  exactMatch := some (.flag args.exact)

/-- A search, and how its result is printed. -/
def search (s : Settings) (args : SearchArguments) : Call Result :=
  ((Connection.ofSettings s).handle args.input).map fun
    | .error envelope => ⟨"", [envelope.message]⟩
    | .ok result => .ok (if args.json then Report.json result ++ "\n" else Report.text result)

/-- What the engine would be asked. -/
def explain (s : Settings) (args : SearchArguments) : Plan :=
  Plan.prepare args.query (args.input.toOptions s.resultsPerPage) s.enabled

/-- A health check, and what it prints. -/
def health (s : Settings) : Call Result :=
  (Connection.ofSettings s).health.map fun
    | .error e => ⟨"", ["Health check failed", e.message]⟩
    | .ok _ => .ok ("Search server at " ++ s.baseUrl ++ " is healthy\n")

/-- What the settings are, with the key masked. -/
def showSettings (s : Settings) : String :=
  s.redacted.toJson.pretty ++ "\n" ++
    (if s.isConfigured then ""
      else "\nNote: API URL and key are required before searching.\n")

/-- A command under settings. -/
def Command.call (command : Command) (s : Settings) : Call Result :=
  match command with
  | .search args => CommandLine.search s args
  | .explain args => .settled (.ok ((CommandLine.explain s args).text ++ "\n"))
  | .health => CommandLine.health s
  | .config => .settled (.ok (showSettings s))

/-- A command line carried out. -/
def Arguments.call (args : Arguments) (around : Settings.Surroundings) : Call Result :=
  match args.settings around with
  | .error e => .settled ⟨"", ["Failed to load configuration", e.message]⟩
  | .ok s => args.command.call s

/-- A command line carried out over a transport. -/
def Arguments.run {σ : Type} (args : Arguments) (around : Settings.Surroundings)
    (transport : Transport σ) (state : σ) : Result × σ :=
  (args.call around).run transport state

end SiteSearch.CommandLine
