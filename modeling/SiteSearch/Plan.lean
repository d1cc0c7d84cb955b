import SiteSearch.Query.Parsed
import SiteSearch.Filter.Compile
import SiteSearch.Request
import SiteSearch.Json.Printer

/-!
# Search plans

All that follows from a query and the options beside it before the engine is asked: the query
as it was read, the filter, and the request.
-/

namespace SiteSearch

open SiteSearch.Query

/-- What a search comes to. -/
structure Plan where
  parsed : Parsed
  filter : SearchFilter
  request : Request
  deriving DecidableEq, Repr

namespace Plan

def prepare (query : String) (options : SearchOptions) (enabled : EnabledTypes) : Plan :=
  let parsed := parse query
  let filter := SearchFilter.compile parsed.clauses options enabled
  ⟨parsed, filter, Request.build parsed.text filter.text options⟩

/-- The JSON form that is shown to users. -/
def toJson (plan : Plan) : Json :=
  .object [("text", .string plan.parsed.text),
    ("clauses", .ofStrings (plan.parsed.clauses.map (·.expression))),
    ("filter", .string plan.filter.text),
    ("request", plan.request.toJson)]

/-- The plan as it is shown to users. -/
def text (plan : Plan) : String := plan.toJson.pretty

end Plan

end SiteSearch
