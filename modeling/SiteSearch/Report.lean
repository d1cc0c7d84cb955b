import SiteSearch.Text.Substitute
import SiteSearch.Request
import SiteSearch.SearchResult
import SiteSearch.Record.Display
import SiteSearch.Json.Printer

/-!
# Reports

A result as it is printed: for reading, a line that sums it up and a block of lines for each
record, or JSON. In the printed text a star stands for each mark around the words found, and
titles and contents are put on one line.
-/

namespace SiteSearch

open SiteSearch.Text

namespace Report

/-- What stands for a mark. -/
def emphasis : List Char := ['*']

/-- A text with a star for every mark, on one line. -/
def plain (cs : List Char) : List Char :=
  collapse (substitute [Request.markEnd.toList] emphasis
    (substitute [Request.markStart.toList] emphasis cs))

def plainText (s : String) : String := .ofList (plain s.toList)

/-- A line of a block after its first. -/
def indented (s : String) : String := "   " ++ s

/-- The block of the record that comes as number `index`: an empty line, the title, and a line
each for the notes, the link and the content, if there are any. -/
def block (index : Nat) (record : Record) : List String :=
  ["", toString index ++ ". [" ++ record.label ++ "] " ++ plainText record.base.title] ++
  (if record.notes.isEmpty then [] else [indented (" · ".intercalate record.notes)]) ++
  (record.link?.map indented).toList ++
  (if record.base.content = "" then [] else [indented (plainText record.base.content)])

/-- The blocks of records, the first of them as number `index`. -/
def blocks : (index : Nat) → List Record → List String
  | _, [] => []
  | index, record :: records => block index record ++ blocks (index + 1) records

/-- The line that sums up a result. -/
def header (result : SearchResult) : String :=
  toString result.hits.length ++ " of " ++ toString result.total.toNat ++ " results for \"" ++
    result.query ++ "\" (" ++ toString result.processingTimeMs.toNat ++ " ms)"

/-- What is printed for a result, one item a line. -/
def lines (result : SearchResult) : List String :=
  if result.hits.isEmpty then ["No results found for \"" ++ result.query ++ "\""]
  else header result :: blocks 1 result.hits

def text (result : SearchResult) : String := String.join ((lines result).map (· ++ "\n"))

def json (result : SearchResult) : String := result.toJson.pretty

end Report

end SiteSearch
