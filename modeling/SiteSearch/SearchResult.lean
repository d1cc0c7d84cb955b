import SiteSearch.Record.Hit

/-!
# Search results

The engine's answer to a search: the records in the engine's order, and two counters. Any
JSON value can be read as an answer; what it lacks counts as nothing found.
-/

namespace SiteSearch

structure SearchResult where
  query : String
  hits : List Record
  /-- About how many documents there are in all. -/
  total : UInt64
  processingTimeMs : UInt64
  deriving DecidableEq, Repr

namespace SearchResult

/-- A counter of an answer; zero unless it is a natural number of 64 bits. -/
def counter (answer : Json) (name : String) : UInt64 :=
  ((answer.get? name).bind Json.toUInt64?).getD 0

/-- The result of a query that the engine answered. -/
def ofAnswer (query : String) (answer : Json) : SearchResult where
  query := query
  hits := (((answer.get? "hits").bind Json.elements?).getD []).map Record.ofHit
  total := counter answer "estimatedTotalHits"
  processingTimeMs := counter answer "processingTimeMs"

def toJson (result : SearchResult) : Json :=
  .object [("query", .string result.query), ("hits", .array (result.hits.map Record.toJson)),
    ("total", .ofNat result.total.toNat),
    ("processingTimeMs", .ofNat result.processingTimeMs.toNat)]

end SearchResult

end SiteSearch
