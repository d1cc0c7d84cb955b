import SiteSearch.Content
import SiteSearch.Query.Directive
import SiteSearch.Filter.Quoted

/-!
# Conditions

A clause is one condition on the documents that a search returns, in the engine's filter
language, with the kind of directive it stands for and who asked for it.
-/

namespace SiteSearch.Filter

open SiteSearch.Query

/-- Who asked for a condition. -/
inductive Source where
  /-- It was typed in the query. -/
  | grammar
  /-- It was picked beside the query. -/
  | options
  /-- It follows from the enabled content types. -/
  | settings
  deriving DecidableEq, Repr

def Source.name : Source → String
  | .grammar => "Grammar"
  | .options => "Options"
  | .settings => "Settings"

def Source.ofName? (s : String) : Option Source :=
  [Source.grammar, .options, .settings].find? (·.name == s)

structure Clause where
  directive : Directive
  source : Source
  /-- The condition in the filter language. -/
  expression : String
  deriving DecidableEq, Repr

namespace Clause

/-- The document's type is the given one, whatever text that is. -/
def contentType (source : Source) (value : String) : Clause :=
  ⟨.type, source, "type = " ++ quoted value⟩

/-- The document is of the given year. -/
def year (source : Source) (year : Int) : Clause :=
  ⟨.year, source, "year = " ++ toString year⟩

/-- The document is a file of the given category. -/
def category (source : Source) (category : Category) : Clause :=
  ⟨.doctype, source, "document_type = \"" ++ category.name ++ "\""⟩

/-- The document is of a date before the given one. -/
def before (source : Source) (date : Nat) : Clause :=
  ⟨.before, source, "date_sortable < " ++ toString date⟩

/-- The document is of a date after the given one. -/
def after (source : Source) (date : Nat) : Clause :=
  ⟨.after, source, "date_sortable > " ++ toString date⟩

/-- The document's path holds the given text. -/
def within (source : Source) (part : String) : Clause :=
  ⟨.within, source, "path CONTAINS " ++ quoted part⟩

/-- The document's type is one of those enabled; no condition when none is. -/
def enabledTypes? (enabled : EnabledTypes) : Option Clause :=
  match enabled.toList with
  | [] => none
  | types =>
    let alternatives := types.map fun t => "type = \"" ++ t.name ++ "\""
    some ⟨.type, .settings, "(" ++ " OR ".intercalate alternatives ++ ")"⟩

end Clause

end SiteSearch.Filter
