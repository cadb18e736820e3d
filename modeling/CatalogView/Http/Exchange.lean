import CatalogView.Http.Response
import CatalogView.Url.Parse

/-!
# Exchanges

What comes back for a request may only say that the resource is found in another place. The client
then sends the request there, and goes on like this until an answer comes that is taken as it is.
`Web.lastReply?` is the reply with that answer. There is none if nothing comes back that is an
answer, if an answer names a place where the client does not go, or if it is sent on too often.
-/

namespace CatalogView.Http

open CatalogView.Text

/-- What comes back for a request to an address: all bytes until nothing follows, if there is a
connection at all and the client sends the request. It may depend on the addresses that the request
was sent to before, the first of them first. -/
abbrev Web := List Url → Url → Option Bytes

/-- What a client does about the place that an answer names. -/
inductive Redirect where
  /-- Takes the answer as it is. -/
  | stay
  /-- Goes there no more, and has no answer. -/
  | refuse
  /-- Sends the request to another address. -/
  | follow (url : Url)
  deriving DecidableEq, Repr

/-- How a client reads the place that the answer of an address names. -/
abbrev Guide := Url → List Char → Redirect

/-- A place is a reference from the address that names it. What is no reference is passed over, and
one that leads away from the web is not followed. -/
def Redirect.of (url : Url) (place : List Char) : Redirect :=
  match (Utf8.decode? (place.map Char.toUInt8)).bind fun text => (url.join text).toOption with
  | none => .stay
  | some next =>
    if next.scheme = "http".toList ∨ next.scheme = "https".toList then .follow next else .refuse

/-- The statuses of answers that name another place for the same request. -/
def isRedirect (status : Nat) : Bool :=
  status = 301 || status = 302 || status = 303 || status = 307 || status = 308

/-- What a client does about the answer of an address with a head. -/
def Guide.redirect (guide : Guide) (url : Url) (head : Head) : Redirect :=
  if isRedirect head.status then
    match head.values "location" with
    | [] => .stay
    | place :: _ => guide url place
  else .stay

/-- A request is sent on at most so many times. -/
def maxRedirects : Nat := 10

/-- What comes of a reply. -/
inductive Reply where
  /-- It is no answer, or one that leads nowhere. -/
  | lost
  /-- It is the last answer, with these bytes. -/
  | answer (bytes : Bytes)
  /-- The request is sent to another address. -/
  | moved (url : Url)
  deriving DecidableEq, Repr

/-- What comes of an answer with these bytes. -/
def Redirect.reply (bytes : Bytes) : Redirect → Reply
  | .stay => .answer bytes
  | .refuse => .lost
  | .follow next => .moved next

/-- What comes of all bytes that come back from an address. -/
def Guide.judge (guide : Guide) (url : Url) : Option Bytes → Reply
  | none => .lost
  | some bytes =>
    match Arrival.read? bytes with
    | none => .lost
    | some arrival => (guide.redirect url arrival.head).reply bytes

/-- The bytes of the last answer to a request that is sent to an address, after it was sent to
others, if it is sent on at most `left` times more and there is an answer then. -/
def Web.lastReply? (web : Web) (guide : Guide) (left : Nat) (before : List Url) (url : Url) :
    Option Bytes :=
  match guide.judge url (web before url), left with
  | .lost, _ => none
  | .answer bytes, _ => some bytes
  | .moved _, 0 => none
  | .moved next, left + 1 => web.lastReply? guide left (before ++ [url]) next

end CatalogView.Http
