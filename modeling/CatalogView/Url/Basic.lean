import CatalogView.Url.Address

/-!
# Addresses of resources

An address says under which scheme, at which host and by which path a resource is found. Its parts
are kept in the form in which they are written, escapes included.
-/

namespace CatalogView

open CatalogView.Text

/-- What the name of a host stands for. -/
inductive Host where
  /-- A name, which is empty where the scheme allows it. -/
  | name (text : List Char)
  | ipv4 (address : Nat)
  | ipv6 (pieces : List Nat)
  deriving DecidableEq, Repr

/-- A host as it is written. -/
def Host.text : Host → List Char
  | .name text => text
  | .ipv4 address => Url.Ipv4.text address
  | .ipv6 pieces => '[' :: Url.Ipv6.text pieces ++ [']']

/-- The path of an address. -/
inductive UrlPath where
  /-- A text that only the scheme understands. -/
  | bare (text : List Char)
  /-- Segments with a slash before each of them. -/
  | rooted (segments : List (List Char))
  deriving DecidableEq, Repr

/-- A path as it is written. -/
def UrlPath.text : UrlPath → List Char
  | .bare text => text
  | .rooted segments => segments.flatMap ('/' :: ·)

/-- An address. -/
structure Url where
  scheme : List Char
  username : List Char := []
  password : List Char := []
  host? : Option Host := none
  port? : Option Nat := none
  path : UrlPath
  query? : Option (List Char) := none
  fragment? : Option (List Char) := none
  deriving DecidableEq, Repr

namespace Url

/-- The kinds of schemes, which have rules of their own. -/
inductive SchemeKind where
  /-- There is always a host, and a backslash is a slash. -/
  | web
  | file
  | other
  deriving DecidableEq, Repr

/-- The schemes with a host, and the port of each. -/
def webSchemes : List (List Char × Nat) :=
  [("http".toList, 80), ("https".toList, 443), ("ws".toList, 80), ("wss".toList, 443),
   ("ftp".toList, 21)]

/-- The kind of a scheme. -/
def kindOf (scheme : List Char) : SchemeKind :=
  if scheme = "file".toList then .file
  else if (webSchemes.lookup scheme).isSome then .web
  else .other

/-- The kind has rules of its own. -/
def SchemeKind.isSpecial (kind : SchemeKind) : Bool := kind ≠ .other

/-- The kind of the address. -/
def kind (url : Url) : SchemeKind := kindOf url.scheme

/-- The name and the password of the user, with the sign after them. -/
def userText (url : Url) : List Char :=
  if url.username.isEmpty && url.password.isEmpty then []
  else
    url.username ++ (if url.password.isEmpty then [] else ':' :: url.password) ++ ['@']

/-- The part between the scheme and the path. Where there is no host, a path that begins with an
empty segment gets a point before it, since it would be taken for a host. -/
def authorityText (url : Url) : List Char :=
  match url.host? with
  | some host =>
    ['/', '/'] ++ url.userText ++ host.text ++
      (match url.port? with
      | some port => ':' :: Nat.toDigits 10 port
      | none => [])
  | none =>
    match url.kind, url.path with
    | .file, _ => ['/', '/']
    | _, .rooted ([] :: _ :: _) => ['/', '.']
    | _, _ => []

/-- An address as text. -/
def text (url : Url) : List Char :=
  url.scheme ++ [':'] ++ url.authorityText ++ url.path.text ++
    (url.query?.map ('?' :: ·)).getD [] ++ (url.fragment?.map ('#' :: ·)).getD []

/-- Other addresses can be given by paths that start from here. -/
def canBeBase (url : Url) : Bool :=
  match url.path with
  | .bare _ => url.host?.isSome
  | .rooted _ => true

end Url

end CatalogView
