import CatalogView.Url.Basic

/-!
# Requests

What is asked for is written in one line: the path and the query of an address.
-/

namespace CatalogView.Http

/-- The name under which requests are made. -/
def userAgent : String := "stemma-view/0.1"

/-- The part of an address that names the resource at its host. -/
def target (url : Url) : List Char :=
  url.path.text ++ (url.query?.map ('?' :: ·)).getD []

/-- The first line of a request for a resource. -/
def requestLine (url : Url) : List Char :=
  "GET ".toList ++ target url ++ " HTTP/1.1".toList

end CatalogView.Http
