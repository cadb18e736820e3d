import CatalogView.Document
import CatalogView.Table.Filter
import CatalogView.Table.Join

/-!
# Details of a table

How a table is used: the filters and joins that are common for it. They are kept as a JSON
document.
-/

namespace CatalogView.Table

open CatalogView.Json CatalogView.Text

/-- The common filters and joins of a table. -/
structure Detail where
  filters : List Filter := []
  joins : List Join := []
  deriving DecidableEq, Repr

/-- Why the details of a table cannot be loaded. -/
inductive LoadError where
  | unreadable (reason : Unreadable)
  | malformed (fault : Fault) (document : Bytes)

/-- What details that cannot be loaded are called. -/
def LoadError.message : LoadError → String
  | .unreadable reason => "Failed to read metadata: " ++ reason.message
  | .malformed fault document => "Failed to parse metadata: " ++ fault.message document

namespace Detail

/-- The JSON form of the details. -/
def codec : Codec Detail where
  shape := .record "TableDetail" <|
    .cons "common_filters" Filter.codec.list.shape true <|
    .cons "common_joins" Join.codec.list.shape true .nil
  ofValue := fun (filters, joins, _) =>
    ⟨Filter.codec.list.ofValue filters, Join.codec.list.ofValue joins⟩
  toValue d := (Filter.codec.list.toValue d.filters, Join.codec.list.toValue d.joins, ())
  ofValue_toValue d := by
    cases d
    exact congr (congrArg _ (Filter.codec.list.ofValue_toValue _))
      (Join.codec.list.ofValue_toValue _)

/-- Loads the details from a document. -/
def load (document : Document) : Except LoadError Detail :=
  match document.text with
  | .error reason => .error (.unreadable reason)
  | .ok text =>
    match codec.decode (Utf8.encode text) with
    | .ok detail => .ok detail
    | .error fault => .error (.malformed fault (Utf8.encode text))

/-- There are neither filters nor joins. -/
def isEmpty (detail : Detail) : Bool :=
  detail.filters.isEmpty && detail.joins.isEmpty

end Detail

end CatalogView.Table
