import SiteSearch.Text.Ascii
import SiteSearch.Json.Decode

/-!
# What the index holds

Every document has a content type; files also have a category. A site chooses which content
types are searched when a request does not pick one.
-/

namespace SiteSearch

open SiteSearch.Text

/-- Filters on a year take those from 1990 to 2100. -/
def isFilterYear (year : Int) : Bool := 1990 ≤ year && year ≤ 2100

/-- The content types, in the order in which filters name them. -/
inductive ContentType where
  | file
  | post
  | page
  | faq
  | event
  deriving DecidableEq, Repr

namespace ContentType

def all : List ContentType := [.file, .post, .page, .faq, .event]

/-- The name that documents carry. -/
def name : ContentType → String
  | .file => "file"
  | .post => "post"
  | .page => "page"
  | .faq => "faq"
  | .event => "event"

/-- The content type of a name, spelled exactly. -/
def ofName? (s : String) : Option ContentType := all.find? (·.name == s)

/-- The content type that a user typed, in any case; `document` and `news` are other words for
files and posts. -/
def ofTyped? (s : String) : Option ContentType :=
  match foldCase s with
  | "document" => some .file
  | "news" => some .post
  | folded => ofName? folded

theorem mem_all (t : ContentType) : t ∈ all := by cases t <;> decide

theorem ofName?_name (t : ContentType) : ofName? t.name = some t := by cases t <;> decide

/-- A content type is found under its own name alone. -/
theorem ofName?_eq_some_iff {s : String} {t : ContentType} : ofName? s = some t ↔ s = t.name := by
  constructor
  · intro h
    have := List.find?_some h
    exact (by simpa using this : t.name = s).symm
  · rintro rfl
    exact ofName?_name t

end ContentType

/-- The categories of files. -/
inductive Category where
  | minutes
  | agenda
  | policy
  | planning
  | finance
  | other
  deriving DecidableEq, Repr

namespace Category

def all : List Category := [.minutes, .agenda, .policy, .planning, .finance, .other]

/-- The name that documents carry. -/
def name : Category → String
  | .minutes => "minutes"
  | .agenda => "agenda"
  | .policy => "policy"
  | .planning => "planning"
  | .finance => "finance"
  | .other => "other"

/-- The category of a name, spelled exactly. -/
def ofName? (s : String) : Option Category := all.find? (·.name == s)

/-- The category that a user typed, in any case. -/
def ofTyped? (s : String) : Option Category := ofName? (foldCase s)

theorem ofName?_name (c : Category) : ofName? c.name = some c := by cases c <;> decide

theorem ofName?_eq_some_iff {s : String} {c : Category} : ofName? s = some c ↔ s = c.name := by
  constructor
  · intro h
    have := List.find?_some h
    exact (by simpa using this : c.name = s).symm
  · rintro rfl
    exact ofName?_name c

end Category

/-- Which content types are searched when a request does not pick one. -/
structure EnabledTypes where
  files : Bool
  posts : Bool
  pages : Bool
  faqs : Bool
  events : Bool
  deriving DecidableEq, Repr

namespace EnabledTypes

/-- All of them. -/
def everything : EnabledTypes := ⟨true, true, true, true, true⟩

/-- None of them. -/
def nothing : EnabledTypes := ⟨false, false, false, false, false⟩

/-- Whether a content type is enabled. -/
def enables (enabled : EnabledTypes) : ContentType → Bool
  | .file => enabled.files
  | .post => enabled.posts
  | .page => enabled.pages
  | .faq => enabled.faqs
  | .event => enabled.events

/-- The enabled content types, in order. -/
def toList (enabled : EnabledTypes) : List ContentType := ContentType.all.filter enabled.enables

/-- The JSON form, in which every type must be given. -/
def shape : Json.RecordShape EnabledTypes where
  name := "ContentTypeConfig"
  fields := [
    .of "files" Json.decodeBool (fun b enabled => { enabled with files := b }) true,
    .of "posts" Json.decodeBool (fun b enabled => { enabled with posts := b }) true,
    .of "pages" Json.decodeBool (fun b enabled => { enabled with pages := b }) true,
    .of "faqs" Json.decodeBool (fun b enabled => { enabled with faqs := b }) true,
    .of "events" Json.decodeBool (fun b enabled => { enabled with events := b }) true]
  blank := nothing

/-- The JSON form of a choice. -/
def toJson (enabled : EnabledTypes) : Json :=
  .object [("files", .bool enabled.files), ("posts", .bool enabled.posts),
    ("pages", .bool enabled.pages), ("faqs", .bool enabled.faqs),
    ("events", .bool enabled.events)]

end EnabledTypes

end SiteSearch
