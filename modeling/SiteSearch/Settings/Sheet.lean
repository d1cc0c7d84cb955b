import SiteSearch.Json.Reader
import SiteSearch.Settings.Basic
import SiteSearch.Settings.KeyPath
import SiteSearch.Settings.Value

/-!
# Sheets of settings

A sheet holds the value of each key and where it came from. Sources are laid over one another:
a later value takes the place of an earlier one. Keys are kept in small letters. A table laid
over anything makes a table of it, unless the table is empty and there is something already.
-/

namespace SiteSearch.Settings

open SiteSearch.Text SiteSearch.Decimal

/-- A value and where it came from. -/
structure Entry where
  value : Value
  origin : Option String
  deriving DecidableEq, Repr

/-- The entries by key. -/
abbrev Sheet := List (String × Entry)

namespace Sheet

def get? (sheet : Sheet) (key : String) : Option Entry := sheet.lookup key

/-- An entry in the place of what the key had. -/
def set (key : String) (entry : Entry) : Sheet → Sheet
  | [] => [(key, entry)]
  | (k, e) :: rest => if k = key then (key, entry) :: rest else (k, e) :: set key entry rest

/-- A value laid over what the key had. -/
def put (sheet : Sheet) (key : String) (value : Value) (origin : Option String) : Sheet :=
  match value with
  | .table true => sheet.set key ⟨.table true, none⟩
  | .table false => if (sheet.get? key).isSome then sheet else sheet.set key ⟨.table false, none⟩
  | value => sheet.set key ⟨value, origin⟩

/-- A value laid at the end of a path. Whatever was at its root becomes a table when the path
steps into a member, and a sequence when it steps into an element; a sequence stays the one
that it is. -/
def putPath (sheet : Sheet) (path : KeyPath) (value : Value) (origin : Option String) : Sheet :=
  match path.steps with
  | [] => sheet.put path.root value origin
  | .member _ :: _ => sheet.set path.root ⟨.table true, none⟩
  | .element _ :: _ =>
    match sheet.get? path.root with
    | some ⟨.sequence, _⟩ => sheet
    | _ => sheet.set path.root ⟨.sequence, none⟩

/-- The values of a source, laid in order. Keys count in small letters. -/
def putAll (sheet : Sheet) (values : List (String × Value)) (origin : Option String) : Sheet :=
  values.foldl (fun sheet entry => sheet.putPath (.ofKey (lower entry.1)) entry.2 origin) sheet

end Sheet

/-- What stands below all sources. -/
def builtIn : Sheet :=
  let s : Settings := {}
  [("results_per_page", ⟨.integer (.ofNat s.resultsPerPage.toNat), none⟩),
    ("index_name", ⟨.text s.indexName, none⟩),
    ("search_timeout_secs", ⟨.integer (.ofNat s.searchTimeoutSecs.toNat), none⟩),
    ("health_timeout_secs", ⟨.integer (.ofNat s.healthTimeoutSecs.toNat), none⟩),
    ("log_level", ⟨.text s.logLevel, none⟩)]

/-! ## Sources -/

/-- The value that JSON gives. An integer beyond 64 bits with a sign counts as a float. -/
def Value.ofJson : Json → Value
  | .null => .unit
  | .bool b => .boolean b
  | .number (.integer n) =>
    match fitInt64? n with
    | some n => .integer n
    | none => .float (.finite ⟨n < 0, (nearest? n.natAbs 1).getD 0⟩)
  | .number (.float x) => .float (.finite x)
  | .string s => .text s
  | .array _ => .sequence
  | .object members => .table (!members.isEmpty)

/-- What variables of the environment that hold settings start with, in small letters. -/
def variablePrefix : String := "parish_search__"

/-- The key of a variable of the environment, if it holds a setting; two underscores separate
the names of a path. -/
def variableKey? (name : String) : Option String :=
  let small := (lower name).toList
  if variablePrefix.toList.isPrefixOf small then
    some (.ofList (separated (small.drop variablePrefix.length)))
  else none
where
  separated : List Char → List Char
    | '_' :: '_' :: cs => '.' :: separated cs
    | c :: cs => c :: separated cs
    | [] => []

/-- The value of a variable: a boolean, an integer or a float if it reads as one, else text. -/
def Value.ofVariable (s : String) : Value :=
  match lower s with
  | "true" => .boolean true
  | "false" => .boolean false
  | _ => match readInt64? s with
    | some n => .integer n
    | none => match readFloat? s with
      | some x => .float x
      | none => .text s

def ofVariables (environment : List (String × String)) : List (String × Value) :=
  environment.filterMap fun (name, value) =>
    (variableKey? name).map fun key => (key, Value.ofVariable value)

end SiteSearch.Settings
