import CatalogView.Table.Ref
import CatalogView.Text.Part

/-!
# Common filters

A filter is a condition that is often put on a table. Its clause names columns through aliases of
tables, and a column of another table than the one that is viewed is a link to that table's page.
-/

namespace CatalogView.Table

open CatalogView.Json CatalogView.Text

/-- A table and the name it goes by in a clause. -/
structure Alias where
  name : String
  table : Ref
  deriving DecidableEq, Repr

namespace Alias

/-- The JSON form of an alias. -/
def codec : Codec Alias where
  shape := .record "AliasMapping" <|
    .cons "alias" .text false <| .cons "table" Ref.codec.shape false .nil
  ofValue := fun (name, table, _) => ⟨name, Ref.codec.ofValue table⟩
  toValue a := (a.name, Ref.codec.toValue a.table, ())
  ofValue_toValue _ := rfl

/-- The token names a column through the alias: it holds the alias with a point after it. -/
def occursIn (a : Alias) (token : List Char) : Bool :=
  Text.occursIn (a.name.toList ++ ['.']) token

end Alias

/-- A part of a clause as it is shown. -/
inductive Segment where
  /-- Text that leads nowhere. -/
  | plain (text : String)
  /-- A column of another table, which leads to the page of that table. -/
  | link (table column path : String)
  deriving DecidableEq, Repr

/-- The text of a segment. -/
def Segment.text : Segment → String
  | .plain text => text
  | .link table column _ => table ++ "." ++ column

/-- A condition often put on a table, with the aliases that its clause uses. -/
structure Filter where
  clause : String
  aliases : List Alias
  deriving DecidableEq, Repr

namespace Filter

/-- The JSON form of a filter. -/
def codec : Codec Filter where
  shape := .record "CommonFilter" <|
    .cons "where_clause" .text false <|
    .cons "alias_mapping" Alias.codec.list.shape true .nil
  ofValue := fun (clause, aliases, _) => ⟨clause, Alias.codec.list.ofValue aliases⟩
  toValue f := (f.clause, Alias.codec.list.toValue f.aliases, ())
  ofValue_toValue f := by
    cases f
    exact congrArg _ (Alias.codec.list.ofValue_toValue _)

/-- The column that a token names: what stands between its first two points. -/
def columnOf (token : List Char) : String :=
  match splitAt '.' token with
  | _ :: column :: _ => .ofList column
  | _ => ""

/-- A column of a table, seen from the page of the table named `viewed`. -/
def columnSegment (token : List Char) (table : Ref) (viewed : String) : Segment :=
  if table.name = viewed then .plain (table.name ++ "." ++ columnOf token)
  else .link table.name (columnOf token) table.path

/-- A token of a clause. The first alias that occurs in it decides whose column it is. -/
def tokenSegment (aliases : List Alias) (viewed : String) (token : List Char) : Segment :=
  match aliases.find? (·.occursIn token) with
  | some a => columnSegment token a.table viewed
  | none => .plain (.ofList token)

/-- The tokens of a clause, which stand between its spaces, as they are shown on the page of the
table named `viewed`. -/
def segments (filter : Filter) (viewed : String) : List Segment :=
  (splitAt ' ' filter.clause.toList).map (tokenSegment filter.aliases viewed)

/-- The clause as it is shown, with a space after every token. -/
def line (filter : Filter) (viewed : String) : String :=
  String.join ((filter.segments viewed).map (·.text ++ " "))

end Filter

end CatalogView.Table
