import SiteSearch.Text.ByteOrderMark
import SiteSearch.Json.Reader
import SiteSearch.Json.Printer
import SiteSearch.Engine.Address
import SiteSearch.Engine.Transport

/-!
# Links over HTTP

A link writes requests as messages and reads the engine's replies, whose bodies are text. A
request cannot be written if its address has no host or another scheme than `http` and
`https`, or if its headers hold control characters. A request to an engine that does not
answer fails with its address.
-/

namespace SiteSearch.Engine

open SiteSearch.Text

/-- A message as the engine gets it. -/
structure Message where
  method : Method
  url : String
  authorization : Option String
  contentType : Option String
  body : Option Json

/-- A reply as the engine gives it. -/
structure RawReply where
  status : UInt16
  text : String
  deriving DecidableEq, Repr

/-- The replies that the engine has still to give, and the messages that it got, oldest first.
An engine that cannot be reached gives none. -/
structure Link where
  replies : List RawReply
  messages : List Message

/-- The character may stand in the value of a header: no control character but the tab. -/
def isHeaderChar (c : Char) : Bool := c == '\t' || (0x20 ≤ c.toNat && c.toNat != 0x7f)

/-- The headers of a request can be written. -/
def HttpRequest.hasPlainHeaders (request : HttpRequest) : Bool :=
  request.headers.all fun header => header.2.toList.all isHeaderChar

/-- A failure that is told with the address of the request. -/
def failureAt (reason : String) (a : Address) : TransportError :=
  .connection (reason ++ " for url (" ++ a.text ++ ")")

/-- The address to which a request can be written, or why there is none: what is wrong with the
address counts before what is wrong with the headers, and that before a scheme that is not
served. -/
def HttpRequest.address (request : HttpRequest) : Except TransportError Address :=
  match Address.read? request.url with
  | none => .error (.connection "builder error")
  | some a =>
    if !a.hasHost then .error (failureAt "builder error" a)
    else if !request.hasPlainHeaders then .error (.connection "builder error")
    else if a.scheme ∉ ["http", "https"] then .error (failureAt "builder error" a)
    else .ok a

def HttpRequest.message (request : HttpRequest) : Message where
  method := request.method
  url := request.url
  authorization := request.header? "Authorization"
  contentType := request.body.map fun _ => "application/json"
  body := request.body

/-- The reply as it is read: a body that is not JSON is null. -/
def RawReply.read (reply : RawReply) : HttpReply :=
  ⟨reply.status, (Json.read? (dropMark reply.text)).getD .null⟩

/-- Each request that can be written takes the next reply. -/
def link : Transport Link where
  send request state :=
    match request.address with
    | .error e => (.error e, state)
    | .ok a =>
      match state.replies with
      | [] => (.error (failureAt "error sending request" a), state)
      | reply :: replies =>
        (.ok reply.read, ⟨replies, state.messages ++ [request.message]⟩)

/-- A link to an engine that cannot be reached. -/
def Link.down : Link := ⟨[], []⟩

end SiteSearch.Engine
