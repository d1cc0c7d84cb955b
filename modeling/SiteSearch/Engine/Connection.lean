import SiteSearch.Settings.Basic

/-!
# Connections

What the settings say about reaching the engine, made ready for use.
-/

namespace SiteSearch.Engine

open SiteSearch.Text

/-- How the engine is reached and asked. -/
structure Connection where
  /-- The address, without slashes at its end. -/
  baseUrl : String
  apiKey : String
  indexName : String
  enabled : EnabledTypes
  resultsPerPage : UInt32
  searchTimeout : Duration
  healthTimeout : Duration
  deriving DecidableEq, Repr

namespace Connection

def ofSettings (s : Settings) : Connection where
  baseUrl := s.baseUrl
  apiKey := trimBlanks s.apiKey
  indexName := s.indexName
  enabled := s.enabled
  resultsPerPage := s.resultsPerPage
  searchTimeout := s.searchTimeout
  healthTimeout := s.healthTimeout

/-- There is an address and a key. -/
def isConfigured (c : Connection) : Bool := c.baseUrl != "" && c.apiKey != ""

def searchUrl (c : Connection) : String := c.baseUrl ++ "/indexes/" ++ c.indexName ++ "/search"

/-- The address of health checks. -/
def healthUrl (c : Connection) : String := c.baseUrl ++ "/health"

/-- The headers of every request: the key, and nothing else. -/
def headers (c : Connection) : List (String × String) :=
  [("Authorization", "Bearer " ++ c.apiKey)]

end Connection

end SiteSearch.Engine
