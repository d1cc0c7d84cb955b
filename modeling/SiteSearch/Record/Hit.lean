import SiteSearch.Text.Blank
import SiteSearch.Record.Basic

/-!
# Records of hits

The engine answers with hits, JSON objects of any make. A hit becomes a record by its type:
text may be given as a string, a number or a boolean, integers also as text, and what is
missing or of another kind has a neutral value. A value that is no object counts as an empty
one.
-/

namespace SiteSearch

open SiteSearch.Text

namespace Json

def scalarText? : Json → Option String
  | .string s => some s
  | .number n => some n.text
  | .bool b => some (if b then "true" else "false")
  | _ => none

/-- The integer of a number, or of a text that is one but for blanks around it. -/
def integer? : Json → Option Int64
  | .number n => n.toInt64?
  | .string s => readInt64? (trimBlanks s)
  | _ => none

end Json

namespace Record

/-- Where files lie that do not say it. -/
def standardUrlPrefix : String := "/wp-content/uploads/"

/-- The page of a file that does not say it. -/
def standardPage : Int64 := 1

/-- The priority of a question that does not say it. -/
def standardPriority : Int64 := 10

/-- The type of a document that does not say it. -/
def unknownKind : String := "unknown"

/-- The text of a hit under a name, if it has one. -/
def text? (hit : Json) (name : String) : Option String := (hit.get? name).bind Json.scalarText?

/-- The text of a hit under a name. -/
def text (hit : Json) (name : String) : String := (text? hit name).getD ""

/-- The version of a hit in which the engine marked the words found. -/
def formatted (hit : Json) : Json := (hit.get? "_formatted").getD .null

def baseOf (hit : Json) : RecordBase where
  id := text hit "id"
  kind := (text? hit "type").getD unknownKind
  title := ((text? (formatted hit) "title").or (text? hit "title")).getD ""
  content := text (formatted hit) "content"
  date := text hit "date_display"

/-- What a post or a page takes from a hit. -/
def articleOf (hit : Json) : ArticleDetails := ⟨text hit "url", text hit "excerpt"⟩

/-- What a content type takes from a hit. -/
def detailsOf (hit : Json) : Option ContentType → Details
  | some .file => .file {
      filename := text hit "filename"
      path := text hit "path"
      urlPrefix := (text? hit "url_prefix").getD standardUrlPrefix
      page := ((hit.get? "page").bind Json.integer?).getD standardPage
      category := text hit "document_type" }
  | some .post => .post (articleOf hit)
  | some .page => .page (articleOf hit)
  | some .faq => .faq {
      categories :=
        (((hit.get? "categories").bind Json.elements?).getD []).filterMap Json.scalarText?
      priority := ((hit.get? "priority").bind Json.integer?).getD standardPriority }
  | some .event => .event {
      url := text hit "url"
      time := text hit "event_time"
      location := text hit "event_location" }
  | none => .generic

def ofHit (hit : Json) : Record :=
  let base := baseOf hit
  ⟨base, detailsOf hit (ContentType.ofName? base.kind)⟩

end Record

end SiteSearch
