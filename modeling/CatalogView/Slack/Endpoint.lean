import CatalogView.Http.Exchange
import CatalogView.Http.Request
import CatalogView.Slack.Feed
import CatalogView.Url.Form
import CatalogView.Url.Parse

/-!
# The catalog's endpoint for conversations

The catalog is asked for conversations at one path, with the resource key as the only field of the
query. An answer that grants the request brings a listing, and any other one a refusal. How the last
answer to a request is come by is left to an exchange, which is any function from the first line of
the request to the bytes of that answer. Over the web it is the one that follows the answers which
only name another place (`fetchOver`), so what is said of a fetch for every exchange is said of it.
-/

namespace CatalogView.Slack

/-- The path of the endpoint. -/
def messagesPath : String := "/api/stemma/slack/v1/messages"

/-- Why there is no endpoint. -/
inductive EndpointError where
  /-- The base is no address. -/
  | base (error : Url.ParseError)
  /-- The path cannot be put behind the base. -/
  | path (error : Url.ParseError)
  deriving DecidableEq, Repr

/-- The fault of the address that the catalog was given. -/
def EndpointError.cause : EndpointError → Url.ParseError
  | .base error | .path error => error

/-- What a catalog without an endpoint is called. -/
def EndpointError.message : EndpointError → String
  | .base error => error.message
  | .path error => "Invalid base URL: " ++ error.message

/-- The address of the endpoint. -/
def messagesUrl (base : String) : Except EndpointError Url := do
  let url ← (Url.parse base.toList).mapError .base
  (url.join messagesPath.toList).mapError .path

/-- The address that is asked for the conversations about a resource. -/
def requestUrl (messages : Url) (key : String) : Url :=
  { messages with query? := some (Url.Form.query "key".toList key.toList) }

/-- The message of a refusal, if it is complete and has one. -/
def refusalMessage? (response : Http.Response) : Option String := do
  let refusal ← (Refusal.codec.decode (← response.body?)).toOption
  refusal.message?

/-- The listing of an answer, if it is complete. -/
def listing? (response : Http.Response) : Option Listing := do
  (Listing.codec.decode (← response.body?)).toOption

/-- How a fetch ends, by the answer if there is one. -/
def outcomeOf : Option Http.Response → Except Failure Payload
  | none => .error .noResponse
  | some response =>
    if isSuccess response.status then
      match listing? response with
      | some listing =>
        .ok
          { conversations := listing.conversations
            status? := some response.status
            message? := some listing.message }
      | none => .error (.ofStatus response.status none)
    else .error (.ofStatus response.status (refusalMessage? response))

/-- The last answer to the request for the conversations about a resource. For the first line of a
request `backend` gives the bytes of the last answer to it, which is the one that the client takes
as it is. It gives nothing where there is no such answer, be it that there is no connection, that
the client refuses to send the request, or that the request is sent on too often. -/
def answerTo (messages : Url) (backend : List Char → Option Text.Bytes) (key : String) :
    Option Http.Response :=
  (backend (Http.requestLine (requestUrl messages key))).bind Http.Response.read?

/-- Asks the catalog once for the conversations about a resource, where `backend` gives the bytes of
the last answer (`answerTo`). -/
def fetch (messages : Url) (backend : List Char → Option Text.Bytes) (key : String) :
    Except Failure Payload :=
  outcomeOf (answerTo messages backend key)

/-- Asks the catalog once over the web, and goes wherever the answers send the request on to. -/
def fetchOver (web : Http.Web) (guide : Http.Guide) (messages : Url) (key : String) :
    Except Failure Payload :=
  let last? := web.lastReply? guide Http.maxRedirects [] (requestUrl messages key)
  fetch messages (fun _ => last?) key

end CatalogView.Slack
