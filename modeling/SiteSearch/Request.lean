import SiteSearch.Options
import SiteSearch.Json.Basic

/-!
# Search requests

What the engine is asked. A search either is ranked by the engine, blending keywords and
meaning unless every word must match as it is, or has an explicit order; never both.
-/

namespace SiteSearch

open SiteSearch.Decimal

/-- The blend of keyword and semantic ranking. -/
structure HybridRanking where
  /-- The share of the semantic side. -/
  semanticRatio : Binary64
  /-- The index's name for what computes meanings. -/
  embedder : String
  deriving DecidableEq, Repr

/-- A fifth of the ranking is semantic. -/
def HybridRanking.standard : HybridRanking := ⟨⟨false, (nearestDecimal? 2 (-1)).getD 0⟩, "openai"⟩

def HybridRanking.toJson (hybrid : HybridRanking) : Json :=
  .object [("semanticRatio", .number (.float hybrid.semanticRatio)),
    ("embedder", .string hybrid.embedder)]

/-- Matching of words as they are. -/
structure ExactMatching where
  /-- Which words must match. -/
  strategy : String
  /-- Misspelled words may match. -/
  toleratesTypos : Bool
  deriving DecidableEq, Repr

/-- Every word must match, spelled as it is. -/
def ExactMatching.standard : ExactMatching := ⟨"all", false⟩

/-- The members that exact matching adds to a request. -/
def ExactMatching.members (exact : ExactMatching) : Json.Members :=
  [("matchingStrategy", .string exact.strategy),
    ("typoTolerance", .object [("enabled", .bool exact.toleratesTypos)])]

structure Request where
  q : String
  /-- How many results are wanted at most. -/
  limit : Nat
  filter : Option String
  sort : Option (List String)
  hybrid : Option HybridRanking
  exact : Option ExactMatching
  deriving DecidableEq, Repr

namespace Request

/-- The attributes that come back with every hit. -/
def attributesToRetrieve : List String :=
  ["id", "type", "title", "content", "filename", "path", "url_prefix", "url", "excerpt",
    "date_display", "document_type", "page", "categories", "priority", "event_time",
    "event_location"]

/-- The attributes in which the words found are marked. -/
def attributesToHighlight : List String := ["content", "title"]

/-- The attributes of which only the part around the words found comes back. -/
def attributesToCrop : List String := ["content"]

/-- How many words that part has. -/
def cropLength : Nat := 150

/-- The mark before a word found. -/
def markStart : String := "<mark>"

/-- The mark after a word found. -/
def markEnd : String := "</mark>"

/-- The least number of results that is asked for. -/
def minLimit : Nat := 1

/-- The greatest number of results that is asked for. -/
def maxLimit : Nat := 100

/-- A limit brought into range. -/
def clampLimit (limit : Int64) : Nat :=
  (max (minLimit : Int) (min (maxLimit : Int) limit.toInt)).toNat

/-- The request for a text, a filter and options; an empty filter is left out. -/
def build (text filter : String) (options : SearchOptions) : Request where
  q := text
  limit := clampLimit options.limit
  filter := if filter = "" then none else some filter
  sort := options.sort.spec?
  hybrid := if !options.exact && options.sort == .relevance then some .standard else none
  exact := if options.exact then some .standard else none

/-- The members of a request, in the order in which they are written. -/
def members (request : Request) : Json.Members :=
  [("q", .string request.q), ("limit", .ofNat request.limit)] ++
  (request.filter.map fun f => ("filter", Json.string f)).toList ++
  (request.sort.map fun s => ("sort", Json.ofStrings s)).toList ++
  [("attributesToRetrieve", .ofStrings attributesToRetrieve),
    ("attributesToHighlight", .ofStrings attributesToHighlight),
    ("highlightPreTag", .string markStart),
    ("highlightPostTag", .string markEnd),
    ("attributesToCrop", .ofStrings attributesToCrop),
    ("cropLength", .ofNat cropLength)] ++
  (request.hybrid.map fun h => ("hybrid", h.toJson)).toList ++
  (request.exact.map ExactMatching.members).getD []

def toJson (request : Request) : Json := .object request.members

end Request

end SiteSearch
