import SiteSearch.Text.Blank
import SiteSearch.Query.Scan
import SiteSearch.Filter.Clause

/-!
# Parsed queries

A query is read as the text to search for and the conditions that its directives state. A
directive whose value is out of range is taken out of the text all the same, but states
nothing.
-/

namespace SiteSearch.Query

open SiteSearch.Text SiteSearch.Filter

/-- A month of a year, or only the year. -/
structure YearMonth where
  year : Nat
  month : Option Nat
  deriving DecidableEq, Repr

/-- The year and month of a value: four digits, and after a dash two more. -/
def YearMonth.ofValue (value : List Char) : YearMonth :=
  ⟨digitsValue (value.take 4),
    match value.drop 5 with
    | [] => none
    | month => some (digitsValue month)⟩

/-- A date as the digits of year, month and day; none for a year or month out of range. The
day is not checked against the month. -/
def date? (year month day : Nat) : Option Nat :=
  if isFilterYear year ∧ 1 ≤ month ∧ month ≤ 12 then some (year * 10000 + month * 100 + day)
  else none

/-- The condition that a directive states. -/
def Occurrence.clause? (o : Occurrence) : Option Clause :=
  let word := String.ofList (asciiLower o.value)
  match o.directive with
  | .type => (ContentType.ofTyped? word).map fun t => .contentType .grammar t.name
  | .year =>
    let year := digitsValue o.value
    if isFilterYear year then some (.year .grammar year) else none
  | .doctype => (Category.ofTyped? word).map (.category .grammar)
  | .before =>
    let m := YearMonth.ofValue o.value
    (date? m.year (m.month.getD 12) 31).map (.before .grammar)
  | .after =>
    let m := YearMonth.ofValue o.value
    (date? m.year (m.month.getD 1) 1).map (.after .grammar)
  | .within => some (.within .grammar word)

/-- A query, read. -/
structure Parsed where
  /-- The text to search for, its words one space apart. -/
  text : String
  /-- The conditions, in the order of their directives. -/
  clauses : List Clause
  deriving DecidableEq, Repr

/-- Whether the query states a condition of a kind. -/
def Parsed.has (parsed : Parsed) (d : Directive) : Bool := parsed.clauses.any (·.directive == d)

/-- The conditions of directives, in the order of their kinds. -/
def clausesOf (os : List Occurrence) : List Clause :=
  Directive.all.flatMap fun d => (os.filter (·.directive == d)).filterMap Occurrence.clause?

/-- A query, read from what was typed. -/
def parse (query : String) : Parsed :=
  let ps := pieces query.toList
  ⟨.ofList (collapse (keptText ps)), clausesOf (occurrences ps)⟩

end SiteSearch.Query
