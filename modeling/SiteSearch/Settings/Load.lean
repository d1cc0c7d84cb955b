import SiteSearch.Settings.Format

/-!
# Loading settings

Settings come from four sources, each laid over the one before: what is built in, the user's
file, a file that is named on the command line, and the environment. The user's file may be
missing, the named one may not. All sources are read before any value is taken for a field. A file
may be named without its extension; then the formats are tried in an order that is not settled.
-/

namespace SiteSearch.Settings

open SiteSearch.Text

/-- Why settings cannot be loaded. -/
inductive LoadError where
  | fileNotFound (name : String)
  | unknownFormat (name : String)
  /-- A file is not well formed, in the words of its reader. -/
  | malformed (complaint : String)
  /-- The file holds a value that is no table. -/
  | notATable (found : Value) (file : String)
  | badValue (mismatch : Mismatch) (key : String) (origin : Option String)
  deriving DecidableEq, Repr

/-- The cause in words. -/
def LoadError.message (e : LoadError) : String :=
  "Configuration error: " ++ match e with
  | .fileNotFound name => "configuration file \"" ++ name ++ "\" not found"
  | .unknownFormat name =>
    "configuration file \"" ++ name ++ "\" is not of a registered file format"
  | .malformed complaint => complaint
  | .notATable found file =>
    "invalid type: " ++ found.describe ++ ", expected a map in " ++ file ++ " in " ++ file
  | .badValue mismatch key origin =>
    "invalid type: " ++ mismatch.found.describe ++ ", expected " ++ mismatch.expected ++
      " for key `" ++ key ++ "`" ++
      match mismatch.tellsOrigin, origin with
      | true, some origin => " in " ++ origin
      | _, _ => ""

/-- Where settings are looked for. -/
structure Surroundings where
  /-- The name of the user's file, without an extension. -/
  userFile : String
  /-- The text of the file to which a path leads. -/
  text? : String → Option String
  environment : List (String × String)
  /-- The formats in the order in which they are tried, which may be any. -/
  formats : List Format := Format.all
  formats_perm : formats.Perm Format.all := by exact .refl _
  readers : Readers := .own

namespace Surroundings

variable (around : Surroundings)

/-! ## Files -/

/-- The first file that has a name but for the extension of its format. -/
def extended? (name : String) : Option FoundFile :=
  (withExtensions around.formats name).findSome? fun candidate =>
    (around.text? candidate.1).map fun text => ⟨plainPath candidate.1, text, candidate.2⟩

/-- The file of a name: the one that has exactly this name, or else one that has it but for its
extension. -/
def find (name : String) : Except LoadError FoundFile :=
  match around.text? name with
  | some text =>
    match Format.ofExtension? (extension name) with
    | some format => .ok ⟨plainPath name, text, format⟩
    | none => .error (.unknownFormat name)
  | none =>
    match around.extended? name with
    | some file => .ok file
    | none => .error (.fileNotFound name)

/-- What a file gives. -/
def values (file : FoundFile) : Except LoadError (List (String × Value)) :=
  match around.readers.root? file.format file.text with
  | some (.table entries) => .ok entries
  | some (.single value) => .error (.notATable value file.path)
  | none => .error (.malformed (around.readers.complaint file))

/-- A file laid over a sheet. -/
def putOver (file : FoundFile) (sheet : Sheet) : Except LoadError Sheet := do
  return sheet.putAll (← around.values file) (some file.path)

/-- All sources laid over one another. -/
def sheet (named : Option String) : Except LoadError Sheet := do
  let sheet ← match around.find around.userFile with
    | .ok file => around.putOver file builtIn
    | .error _ => .ok builtIn
  let sheet ← match named with
    | some name => do around.putOver (← around.find name) sheet
    | none => .ok sheet
  return sheet.putAll (ofVariables around.environment) (some "the environment")

end Surroundings

/-! ## Fields -/

/-- The value of a field, or the one it has when no source gives any. -/
def Sheet.field {α : Type} (sheet : Sheet) (key : String) (take : Value → Except Mismatch α)
    (standard : α) : Except LoadError α :=
  match sheet.get? key with
  | none => .ok standard
  | some entry =>
    match take entry.value with
    | .ok value => .ok value
    | .error mismatch => .error (.badValue mismatch key entry.origin)

def ofSheet (sheet : Sheet) : Except LoadError Settings := do
  let s : Settings := {}
  return {
    apiUrl := ← sheet.field "api_url" Value.toText s.apiUrl
    apiKey := ← sheet.field "api_key" Value.toText s.apiKey
    resultsPerPage := ← sheet.field "results_per_page" Value.toShortCount s.resultsPerPage
    enabled := {
      files := ← sheet.field "enable_files" Value.toSwitch s.enabled.files
      posts := ← sheet.field "enable_posts" Value.toSwitch s.enabled.posts
      pages := ← sheet.field "enable_pages" Value.toSwitch s.enabled.pages
      faqs := ← sheet.field "enable_faqs" Value.toSwitch s.enabled.faqs
      events := ← sheet.field "enable_events" Value.toSwitch s.enabled.events }
    indexName := ← sheet.field "index_name" Value.toText s.indexName
    searchTimeoutSecs :=
      ← sheet.field "search_timeout_secs" Value.toCount s.searchTimeoutSecs
    healthTimeoutSecs :=
      ← sheet.field "health_timeout_secs" Value.toCount s.healthTimeoutSecs
    logLevel := ← sheet.field "log_level" Value.toText s.logLevel }

/-- The settings that surroundings give, with the file that the command line names. -/
def load (around : Surroundings) (named : Option String) : Except LoadError Settings := do
  ofSheet (← around.sheet named)

end SiteSearch.Settings
