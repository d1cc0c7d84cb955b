import SiteSearch.Content
import SiteSearch.Json.Basic

/-!
# Result records

A record is what is shown of one document that was found: what every document has, and what
its content type adds.
-/

namespace SiteSearch

/-- What every document has. -/
structure RecordBase where
  id : String
  /-- The name of the document's type. -/
  kind : String
  /-- The title, with the words found marked if the engine marked them. -/
  title : String
  /-- The part of the content around the words found, marked. -/
  content : String
  date : String
  deriving DecidableEq, Repr

/-- What a file adds. -/
structure FileDetails where
  filename : String
  path : String
  /-- What the path is put behind to make a link. -/
  urlPrefix : String
  /-- The page on which the words were found. -/
  page : Int64
  category : String
  deriving DecidableEq, Repr

/-- What a post or a page adds. -/
structure ArticleDetails where
  url : String
  excerpt : String
  deriving DecidableEq, Repr

/-- What a question with its answer adds. -/
structure FaqDetails where
  categories : List String
  priority : Int64
  deriving DecidableEq, Repr

/-- What an event adds. -/
structure EventDetails where
  url : String
  time : String
  location : String
  deriving DecidableEq, Repr

/-- What a content type adds; nothing is known of what other types add. -/
inductive Details where
  | file (details : FileDetails)
  | post (details : ArticleDetails)
  | page (details : ArticleDetails)
  | faq (details : FaqDetails)
  | event (details : EventDetails)
  | generic
  deriving DecidableEq, Repr

/-- The members that a content type adds. -/
def Details.members : Details → Json.Members
  | .file d => [("filename", .string d.filename), ("path", .string d.path),
      ("url_prefix", .string d.urlPrefix), ("page", .ofInt d.page.toInt),
      ("document_type", .string d.category)]
  | .post d | .page d => [("url", .string d.url), ("excerpt", .string d.excerpt)]
  | .faq d => [("categories", .ofStrings d.categories), ("priority", .ofInt d.priority.toInt)]
  | .event d => [("url", .string d.url), ("event_time", .string d.time),
      ("event_location", .string d.location)]
  | .generic => []

/-- What is shown of one document. -/
structure Record where
  base : RecordBase
  details : Details
  deriving DecidableEq, Repr

namespace Record

/-- The content type, if it is a known one. -/
def contentType? (record : Record) : Option ContentType :=
  match record.details with
  | .file _ => some .file
  | .post _ => some .post
  | .page _ => some .page
  | .faq _ => some .faq
  | .event _ => some .event
  | .generic => none

/-- The JSON form: one flat object. -/
def toJson (record : Record) : Json :=
  .object ([("id", .string record.base.id), ("type", .string record.base.kind),
    ("title", .string record.base.title), ("content", .string record.base.content),
    ("date", .string record.base.date)] ++ record.details.members)

end Record

end SiteSearch
