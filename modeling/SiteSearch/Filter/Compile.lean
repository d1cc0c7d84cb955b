import SiteSearch.Options
import SiteSearch.Filter.Clause

/-!
# Compiling filters

The conditions of a query, the options picked beside it and the enabled content types are
merged into one filter. What was typed wins: an option counts only for a kind of condition
that the query does not state, and the enabled types only when no type was typed or picked.
-/

namespace SiteSearch

open SiteSearch.Query SiteSearch.Filter

/-- A filter: conditions that must all hold. With none the search is unconstrained. -/
structure SearchFilter where
  clauses : List Clause
  deriving DecidableEq, Repr

namespace SearchFilter

def isEmpty (filter : SearchFilter) : Bool := filter.clauses.isEmpty

/-- The filter in the filter language; the empty filter is the empty text. -/
def text (filter : SearchFilter) : String :=
  " AND ".intercalate (filter.clauses.map (·.expression))

/-- The filter in the filter language, if there is something to filter on. -/
def text? (filter : SearchFilter) : Option String :=
  if filter.isEmpty then none else some filter.text

/-- A condition of the kind is among those typed. -/
def stated (typed : List Clause) (d : Directive) : Bool := typed.any (·.directive == d)

/-- The type condition when none was typed: the picked type, or else the enabled ones. -/
def typeClause? (options : SearchOptions) (enabled : EnabledTypes) : Option Clause :=
  match options.typeFilter? with
  | some picked => some (.contentType .options picked)
  | none => Clause.enabledTypes? enabled

/-- The category condition when none was typed: the picked category, if it is one. -/
def categoryClause? (options : SearchOptions) : Option Clause :=
  (options.doctype?.bind Category.ofTyped?).map (.category .options)

/-- The year condition when none was typed: the picked year, if it is in range. -/
def yearClause? (options : SearchOptions) : Option Clause :=
  (options.year.filter fun y => isFilterYear y.toInt).map fun y => .year .options y.toInt

/-- The conditions typed, picked and enabled, merged. -/
def compile (typed : List Clause) (options : SearchOptions) (enabled : EnabledTypes) :
    SearchFilter :=
  let unlessStated (d : Directive) (clause : Option Clause) : List Clause :=
    if stated typed d then [] else clause.toList
  ⟨unlessStated .type (typeClause? options enabled) ++ typed ++
    unlessStated .doctype (categoryClause? options) ++ unlessStated .year (yearClause? options)⟩

end SearchFilter

end SiteSearch
