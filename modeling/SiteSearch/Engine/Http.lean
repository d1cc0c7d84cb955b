import SiteSearch.Text.Ascii
import SiteSearch.Duration
import SiteSearch.Json.Inspect

/-!
# Requests to the engine

One request to the engine, and what may come of sending it: a reply, or a failure to get one.
-/

namespace SiteSearch.Engine

open SiteSearch.Text

/-- What is done with an address. -/
inductive Method where
  | get
  | post
  deriving DecidableEq, Repr

def Method.name : Method → String
  | .get => "Get"
  | .post => "Post"

structure HttpRequest where
  method : Method
  url : String
  headers : List (String × String)
  /-- What is sent along, as JSON. -/
  body : Option Json
  /-- How long it may take. -/
  timeout : Duration

namespace HttpRequest

/-- The value of the first header of a name, whose ASCII case does not matter. -/
def header? (request : HttpRequest) (name : String) : Option String :=
  (request.headers.find? fun header => sameFolded header.1 name).map (·.2)

/-- The request for logs. The values of headers may be secret and are left out. -/
def inspect (request : HttpRequest) : String :=
  let names := request.headers.map fun header => shown header.1
  let body := match request.body with
    | none => "None"
    | some json => "Some(" ++ json.inspect ++ ")"
  "TransportRequest \x7b method: " ++ request.method.name ++ ", url: " ++ shown request.url ++
    ", headers: [" ++ ", ".intercalate names ++ "], body: " ++ body ++ ", timeout: " ++
    request.timeout.text ++ " \x7d"

end HttpRequest

structure HttpReply where
  status : UInt16
  /-- What came along; null unless it was JSON. -/
  body : Json

/-- The status that stands for success, no other does. -/
def HttpReply.isOk (reply : HttpReply) : Bool := reply.status == 200

/-- Why there is no reply. -/
inductive TransportError where
  /-- None came in time. -/
  | timeout (limit : Duration)
  /-- The engine could not be reached. -/
  | connection (reason : String)
  /-- Nothing can be sent at all. -/
  | client (reason : String)
  deriving DecidableEq, Repr

/-- The cause in words. -/
def TransportError.message : TransportError → String
  | .timeout limit => "Request timed out after " ++ limit.text
  | .connection reason => "Connection failed: " ++ reason
  | .client reason => "HTTP client error: " ++ reason

/-- What comes of sending a request. -/
abbrev Outcome := Except TransportError HttpReply

end SiteSearch.Engine
