import CatalogView.Json.Codec

/-!
# Tables of the catalog

A table is found by its database, cluster, schema and name, which also give the path of its detail
page.
-/

namespace CatalogView.Table

open CatalogView.Json

/-- The path of the detail page of a table. Its parts stand in it as they are. -/
def detailPath (cluster database schema name : String) : String :=
  "/table_detail/" ++ cluster ++ "/" ++ database ++ "/" ++ schema ++ "/" ++ name

/-- A table of the catalog, with what is said about it and about its schema. -/
structure Ref where
  cluster : String
  database : String
  schema : String
  name : String
  description? : Option String := none
  schemaDescription? : Option String := none
  deriving DecidableEq, Repr

namespace Ref

/-- The path of the table's detail page. -/
def path (table : Ref) : String :=
  detailPath table.cluster table.database table.schema table.name

/-- The name of the table within its cluster. -/
def qualifiedName (table : Ref) : String :=
  table.schema ++ "." ++ table.name

/-- The JSON form of a table. -/
def codec : Codec Ref where
  shape := .record "TableRef" <|
    .cons "cluster" .text false <| .cons "database" .text false <|
    .cons "schema" .text false <| .cons "name" .text false <|
    .cons "description" (.optional .text) true <|
    .cons "schema_description" (.optional .text) true .nil
  ofValue := fun (cluster, database, schema, name, description?, schemaDescription?, _) =>
    { cluster, database, schema, name, description?, schemaDescription? }
  toValue t :=
    (t.cluster, t.database, t.schema, t.name, t.description?, t.schemaDescription?, ())
  ofValue_toValue _ := rfl

end Ref

end CatalogView.Table
