import CatalogView.Table.Key
import CatalogView.Url.Parse

/-!
# Pages of tables

The page of a table is found at the host of the catalog, by the path that the table's resource key
gives.
-/

namespace CatalogView.Table

/-- Why a page cannot be found. -/
inductive PageError where
  | key (invalid : InvalidKey)
  | host (error : Url.ParseError)
  deriving DecidableEq, Repr

/-- What a page that cannot be found is called. -/
def PageError.message : PageError → String
  | .key invalid => invalid.message
  | .host error => "Invalid host url: " ++ error.message

/-- The address of the page at a host, of which only the part before the path matters. -/
def Key.pageAt (key : Key) (host : String) : Except Url.ParseError Url := do
  (← Url.parse host.toList).join key.path.toList

/-- The address of the page for the text of a resource key. -/
def pageUrl (key host : String) : Except PageError Url :=
  match Key.parse key with
  | .error invalid => .error (.key invalid)
  | .ok key => (key.pageAt host).mapError .host

end CatalogView.Table
