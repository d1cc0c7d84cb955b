import SiteSearch.Text.ByteOrderMark
import SiteSearch.Settings.FileTree
import SiteSearch.Settings.Sheet
import SiteSearch.Settings.Toml

/-!
# Formats of files with settings

A file is in the format that its extension tells. What a text holds in a format is up to a reader.
The library has readers of TOML and JSON; those of the other formats, and all that readers say of a
text that is not well formed, are left open (`Readers`).
-/

namespace SiteSearch.Settings

open SiteSearch.Text

inductive Format where
  | toml
  | json
  | yaml
  | ini
  | ron
  | json5
  deriving DecidableEq, Repr

namespace Format

def all : List Format := [.toml, .json, .yaml, .ini, .ron, .json5]

def extensions : Format → List String
  | .toml => ["toml"]
  | .json => ["json"]
  | .yaml => ["yaml", "yml"]
  | .ini => ["ini"]
  | .ron => ["ron"]
  | .json5 => ["json5"]

/-- The format of an extension, spelled exactly. -/
def ofExtension? (extension : String) : Option Format :=
  all.find? (·.extensions.contains extension)

end Format

/-- The paths of a name with the extensions of some formats. -/
def withExtensions (formats : List Format) (name : String) : List (String × Format) :=
  match pathToName? name with
  | none => []
  | some path =>
    formats.flatMap fun format =>
      format.extensions.map fun extension => (path ++ "." ++ extension, format)

structure FoundFile where
  path : String
  text : String
  format : Format

/-! ## Reading -/

/-- What a text holds. -/
inductive Root where
  | table (entries : List (String × Value))
  /-- A value that is no table. -/
  | single (value : Value)
  deriving DecidableEq, Repr

/-- What the formats come with. -/
structure Readers where
  /-- What a text holds in a format; none if it is not well formed. -/
  root? : Format → String → Option Root
  /-- What is said of a file that is not well formed. -/
  complaint : FoundFile → String

def Root.ofJson : Json → Root
  | .object members => .table (members.map fun (name, json) => (name, Value.ofJson json))
  | json => .single (.ofJson json)

/-- The readers that the library has. To them no text is well formed in a format other than TOML
and JSON, and a placeholder stands for what they say. -/
def Readers.own : Readers where
  root?
    | .toml, text => (Toml.read? (dropMark text)).map .table
    | .json, text => (Json.read? text).map .ofJson
    | _, _ => none
  complaint _ := "<syntax>"

end SiteSearch.Settings
