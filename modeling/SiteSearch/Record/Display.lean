import SiteSearch.Text.LetterCase
import SiteSearch.Record.Basic

/-!
# Showing records

The label, the link and the notes under the title of a record.
-/

namespace SiteSearch

open SiteSearch.Text

/-- What users call a type of document; a type that is not known keeps its name. -/
def typeLabel (kind : String) : String :=
  match ContentType.ofName? kind with
  | some .file => "Document"
  | some .post => "News"
  | some .page => "Page"
  | some .faq => "FAQ"
  | some .event => "Event"
  | none => kind

namespace Record

/-- What users call the record's type. -/
def label (record : Record) : String := typeLabel record.base.kind

/-- A text, if there is one. -/
def nonEmpty? (s : String) : Option String := if s = "" then none else some s

/-- Where the record leads: files to their path, others to their address, if they have one. -/
def link? (record : Record) : Option String :=
  match record.details with
  | .file d => if d.path = "" then none else some (d.urlPrefix ++ d.path)
  | .post d | .page d => nonEmpty? d.url
  | .event d => nonEmpty? d.url
  | .faq _ | .generic => none

/-- What is shown under the title. -/
def notes (record : Record) : List String :=
  let date := nonEmpty? record.base.date
  match record.details with
  | .file d =>
    ((nonEmpty? d.category).map capitalize).toList ++ date.toList ++
      (if 1 < d.page then ["Page " ++ toString d.page.toInt] else [])
  | .faq d => if d.categories.isEmpty then [] else [", ".intercalate d.categories]
  | .event d => date.toList ++ (nonEmpty? d.time).toList ++ (nonEmpty? d.location).toList
  | .post _ | .page _ | .generic => date.toList

end Record

end SiteSearch
