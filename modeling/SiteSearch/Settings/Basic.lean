import SiteSearch.Text.Blank
import SiteSearch.Content
import SiteSearch.Duration

/-!
# Settings

Where the search engine is, how it is asked, and what is searched by default.
-/

namespace SiteSearch

open SiteSearch.Text

structure Settings where
  /-- The address of the engine. -/
  apiUrl : String := ""
  apiKey : String := ""
  /-- How many results are asked for when a request does not say. -/
  resultsPerPage : UInt32 := 10
  /-- The content types searched when a request does not pick one. -/
  enabled : EnabledTypes := .everything
  indexName : String := "parish_search"
  searchTimeoutSecs : UInt64 := 10
  healthTimeoutSecs : UInt64 := 5
  logLevel : String := "info"
  deriving DecidableEq, Repr

namespace Settings

/-- The fields by name, in their order; each may be left out. -/
def fields : List (Json.Field Settings) := [
  .of "api_url" Json.decodeString (fun v s => { s with apiUrl := v }) false,
  .of "api_key" Json.decodeString (fun v s => { s with apiKey := v }) false,
  .of "results_per_page" Json.decodeUInt32 (fun v s => { s with resultsPerPage := v }) false,
  .of "enable_files" Json.decodeBool
    (fun v s => { s with enabled := { s.enabled with files := v } }) false,
  .of "enable_posts" Json.decodeBool
    (fun v s => { s with enabled := { s.enabled with posts := v } }) false,
  .of "enable_pages" Json.decodeBool
    (fun v s => { s with enabled := { s.enabled with pages := v } }) false,
  .of "enable_faqs" Json.decodeBool
    (fun v s => { s with enabled := { s.enabled with faqs := v } }) false,
  .of "enable_events" Json.decodeBool
    (fun v s => { s with enabled := { s.enabled with events := v } }) false,
  .of "index_name" Json.decodeString (fun v s => { s with indexName := v }) false,
  .of "search_timeout_secs" Json.decodeUInt64 (fun v s => { s with searchTimeoutSecs := v }) false,
  .of "health_timeout_secs" Json.decodeUInt64 (fun v s => { s with healthTimeoutSecs := v }) false,
  .of "log_level" Json.decodeString (fun v s => { s with logLevel := v }) false]

def shape : Json.RecordShape Settings := ⟨"Settings", fields, {}⟩

def toJson (s : Settings) : Json :=
  .object [("api_url", .string s.apiUrl), ("api_key", .string s.apiKey),
    ("results_per_page", .ofNat s.resultsPerPage.toNat),
    ("enable_files", .bool s.enabled.files), ("enable_posts", .bool s.enabled.posts),
    ("enable_pages", .bool s.enabled.pages), ("enable_faqs", .bool s.enabled.faqs),
    ("enable_events", .bool s.enabled.events), ("index_name", .string s.indexName),
    ("search_timeout_secs", .ofNat s.searchTimeoutSecs.toNat),
    ("health_timeout_secs", .ofNat s.healthTimeoutSecs.toNat), ("log_level", .string s.logLevel)]

/-- Both the address and the key hold something to see. -/
def isConfigured (s : Settings) : Bool := !isBlankText s.apiUrl && !isBlankText s.apiKey

/-- A text without the slashes at its end. -/
def dropSlashes (cs : List Char) : List Char := (cs.reverse.dropWhile (· == '/')).reverse

/-- The address without the blanks around it and then without the slashes at its end. -/
def baseUrl (s : Settings) : String := .ofList (dropSlashes (trim s.apiUrl.toList))

/-- How long a search may take. -/
def searchTimeout (s : Settings) : Duration := .ofSeconds s.searchTimeoutSecs.toNat

/-- How long a health check may take. -/
def healthTimeout (s : Settings) : Duration := .ofSeconds s.healthTimeoutSecs.toNat

/-- The settings with the key masked, if there is one. -/
def redacted (s : Settings) : Settings :=
  { s with apiKey := if s.apiKey = "" then "" else "********" }

end Settings

end SiteSearch
