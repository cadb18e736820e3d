import CatalogView.Table.Ref

/-!
# Common joins

A join that is often made with a table, and the rows in which it is shown.
-/

namespace CatalogView.Table

open CatalogView.Json

/-- A join of a column with a column of another table. -/
structure Join where
  column : String
  sql : String
  kind : String
  otherTable : Ref
  otherColumn : String
  deriving DecidableEq, Repr

/-- A labelled row, which leads to a page or nowhere. -/
structure Row where
  label : String
  value : String
  path? : Option String := none
  deriving DecidableEq, Repr

namespace Join

/-- The JSON form of a join. -/
def codec : Codec Join where
  shape := .record "CommonJoin" <|
    .cons "column" .text false <| .cons "join_sql" .text false <|
    .cons "join_type" .text false <| .cons "joined_on_table" Ref.codec.shape false <|
    .cons "joined_on_column" .text false .nil
  ofValue := fun (column, sql, kind, table, otherColumn, _) =>
    ⟨column, sql, kind, Ref.codec.ofValue table, otherColumn⟩
  toValue j := (j.column, j.sql, j.kind, Ref.codec.toValue j.otherTable, j.otherColumn, ())
  ofValue_toValue _ := rfl

/-- The rows in which a join is shown, from top to bottom. -/
def rows (join : Join) : List Row :=
  [{ label := "Column", value := join.column },
   { label := "Joined on"
     value := join.otherTable.qualifiedName ++ "." ++ join.otherColumn
     path? := some join.otherTable.path },
   { label := "How", value := join.kind },
   { label := "SQL", value := join.sql }]

end Join

end CatalogView.Table
