import SiteSearch.Text.Blank
import SiteSearch.Text.Integer

/-!
# Search options

What a user picks beside the text of a query. Nothing is checked here: what is out of range
is dropped when the filter is compiled, and the limit is brought into range when the request
is built.
-/

namespace SiteSearch

open SiteSearch.Text

inductive SortOrder where
  /-- The engine's own ranking. -/
  | relevance
  /-- Newest first. -/
  | dateDesc
  /-- Oldest first. -/
  | dateAsc
  deriving DecidableEq, Repr

namespace SortOrder

def all : List SortOrder := [.relevance, .dateDesc, .dateAsc]

def name : SortOrder → String
  | .relevance => "relevance"
  | .dateDesc => "date_desc"
  | .dateAsc => "date_asc"

/-- The order of a name, spelled exactly. -/
def ofName? (s : String) : Option SortOrder := all.find? (·.name == s)

/-- The order that is used when none is picked. -/
def standard : SortOrder := .dateDesc

/-- What the engine is told to sort by; nothing for its own ranking. -/
def spec? : SortOrder → Option (List String)
  | .relevance => none
  | .dateDesc => some ["date_sortable:desc"]
  | .dateAsc => some ["date_sortable:asc"]

theorem ofName?_name (s : SortOrder) : ofName? s.name = some s := by cases s <;> decide

end SortOrder

/-- An option that cannot be read at all. -/
inductive OptionError where
  | unknownSort (name : String)
  deriving DecidableEq, Repr

/-- The cause in words. -/
def OptionError.message : OptionError → String
  | .unknownSort name => "Invalid input: unknown sort: " ++ name

/-- The order of a name, or the complaint that there is none. -/
def SortOrder.ofName (s : String) : Except OptionError SortOrder :=
  match ofName? s with
  | some order => .ok order
  | none => .error (.unknownSort s)

/-- What a user picked beside the text of a query. -/
structure SearchOptions where
  typeFilter : Option String := none
  /-- The document category. -/
  doctype : Option String := none
  year : Option Int32 := none
  sort : SortOrder := .standard
  /-- Every word must match as it is. -/
  exact : Bool := false
  /-- How many results are wanted at most. -/
  limit : Int64 := 10
  deriving DecidableEq, Repr

namespace SearchOptions

/-- A picked text without the blanks around it; one with nothing to see was not picked. -/
def visible? (picked : Option String) : Option String :=
  (picked.map trimBlanks).filter (· ≠ "")

/-- The content type, if one was picked. -/
def typeFilter? (options : SearchOptions) : Option String := visible? options.typeFilter

/-- The document category, if one was picked. -/
def doctype? (options : SearchOptions) : Option String := visible? options.doctype

end SearchOptions

end SiteSearch
