import SiteSearch.Plan
import SiteSearch.SearchInput
import SiteSearch.SearchResult
import SiteSearch.Engine.Connection
import SiteSearch.Engine.Http

/-!
# Calls

What can be asked of the engine. A call is either settled on the spot, or needs one request,
and then what comes of that request decides the answer. No call sends more than one request,
and none is sent again.
-/

namespace SiteSearch.Engine

open SiteSearch.Text

/-- Why a call fails. -/
inductive CallError where
  /-- The address or the key is missing; nothing was sent. -/
  | notConfigured (message : String)
  /-- No reply. -/
  | transport (error : TransportError)
  /-- A reply that is not a success. -/
  | engine (status : UInt16) (message : String)
  /-- There is nothing to search for; nothing was sent. -/
  | emptyQuery
  deriving DecidableEq, Repr

namespace CallError

/-- The cause in words. -/
def message : CallError → String
  | .notConfigured message => message
  | .transport error => error.message
  | .engine _ message => message
  | .emptyQuery => "No search query provided"

/-- The failure came before anything was sent. -/
def isLocal : CallError → Bool
  | .notConfigured _ | .emptyQuery => true
  | .transport _ | .engine _ _ => false

end CallError

/-- What users are told of a failure. -/
structure ErrorEnvelope where
  message : String
  deriving DecidableEq, Repr

/-- The failure as users are told. -/
def CallError.envelope (error : CallError) : ErrorEnvelope := ⟨error.message⟩

def ErrorEnvelope.toJson (envelope : ErrorEnvelope) : Json :=
  .object [("message", .string envelope.message)]

/-- A call with an answer of some type. -/
inductive Call (α : Type) where
  /-- The answer is known without asking. -/
  | settled (answer : α)
  /-- The answer follows from what comes of a request. -/
  | ask (request : HttpRequest) (answer : Outcome → α)

/-- A call whose answer is looked at in another way. -/
def Call.map {α β : Type} (f : α → β) : Call α → Call β
  | .settled answer => .settled (f answer)
  | .ask request answer => .ask request (f ∘ answer)

/-- What a search without address or key is told. -/
def searchNotConfigured : String :=
  "Parish Search is not configured. Please set the API URL and key in Settings."

/-- What a health check without address or key is told. -/
def healthNotConfigured : String := "API URL and key are required"

/-- What is said of a failed search when the engine says nothing. -/
def searchFailed : String := "Search request failed"

/-- What is said of a failed health check. -/
def healthFailed : String := "Could not connect to search server"

/-- The reply of a request that succeeded. Otherwise the failure, with a message that may
depend on what came along. -/
def replyOf (message : Json → String) : Outcome → Except CallError HttpReply
  | .error error => .error (.transport error)
  | .ok reply =>
    if reply.isOk then .ok reply else .error (.engine reply.status (message reply.body))

/-- The message of a failed search: the engine's own, if it gives one as text. -/
def searchMessage (body : Json) : String :=
  ((body.get? "message").bind Json.text?).getD searchFailed

namespace Connection

/-- What a search comes to, without asking the engine. -/
def plan (c : Connection) (query : String) (options : SearchOptions) : Plan :=
  Plan.prepare query options c.enabled

def searchRequest (c : Connection) (query : String) (options : SearchOptions) : HttpRequest where
  method := .post
  url := c.searchUrl
  headers := c.headers
  body := some (c.plan query options).request.toJson
  timeout := c.searchTimeout

def healthRequest (c : Connection) : HttpRequest where
  method := .get
  url := c.healthUrl
  headers := c.headers
  body := none
  timeout := c.healthTimeout

def search (c : Connection) (query : String) (options : SearchOptions) :
    Call (Except CallError SearchResult) :=
  if c.isConfigured then
    .ask (c.searchRequest query options) fun outcome =>
      (replyOf searchMessage outcome).map fun reply => SearchResult.ofAnswer query reply.body
  else .settled (.error (.notConfigured searchNotConfigured))

def health (c : Connection) : Call (Except CallError Unit) :=
  if c.isConfigured then
    .ask c.healthRequest fun outcome => (replyOf (fun _ => healthFailed) outcome).map fun _ => ()
  else .settled (.error (.notConfigured healthNotConfigured))

def handle (c : Connection) (input : SearchInput) :
    Call (Except ErrorEnvelope SearchResult) :=
  if isBlankText input.query then .settled (.error CallError.emptyQuery.envelope)
  else (c.search input.query (input.toOptions c.resultsPerPage)).map
    (·.mapError CallError.envelope)

end Connection

end SiteSearch.Engine
