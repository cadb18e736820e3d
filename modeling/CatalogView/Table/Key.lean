import CatalogView.Table.Ref
import CatalogView.Text.Blank

/-!
# Resource keys of tables

A table has the resource key `database://cluster.schema/name`. The database holds neither a colon
nor a slash, the cluster neither a point nor a slash, and the schema and the name no slash, so a
key can be taken apart in one way only.
-/

namespace CatalogView.Table

open CatalogView.Text

/-- The parts of a resource key. -/
structure Key where
  database : String
  cluster : String
  schema : String
  name : String
  deriving DecidableEq, Repr

/-- A text that is no resource key. -/
structure InvalidKey where
  key : String
  deriving DecidableEq, Repr

/-- What a text that is no resource key is called. -/
def InvalidKey.message (invalid : InvalidKey) : String :=
  "Invalid table key: " ++ invalid.key

namespace Key

/-- The part of a text before one of two characters, and what begins there. -/
def splitBefore (first second : Char) (text : List Char) : List Char × List Char :=
  (text.takeWhile fun c => c ≠ first ∧ c ≠ second,
    text.dropWhile fun c => c ≠ first ∧ c ≠ second)

/-- Takes a resource key apart. -/
def ofChars? (text : List Char) : Option Key :=
  let (database, rest) := splitBefore ':' '/' text
  match rest with
  | ':' :: '/' :: '/' :: rest =>
    let (cluster, rest) := splitBefore '.' '/' rest
    match rest with
    | '.' :: rest =>
      let (schema, rest) := splitBefore '/' '/' rest
      match rest with
      | '/' :: name =>
        if database = [] ∨ cluster = [] ∨ schema = [] ∨ name = [] ∨ '/' ∈ name then none
        else some ⟨.ofList database, .ofList cluster, .ofList schema, .ofList name⟩
      | _ => none
    | _ => none
  | _ => none

/-- Reads a resource key, with blanks around it or not. -/
def parse (text : String) : Except InvalidKey Key :=
  match ofChars? (trim text.toList) with
  | some key => .ok key
  | none => .error ⟨text⟩

/-- The resource key as text. -/
def text (key : Key) : String :=
  key.database ++ "://" ++ key.cluster ++ "." ++ key.schema ++ "/" ++ key.name

/-- The table with the resource key. -/
def table (key : Key) : Ref :=
  { cluster := key.cluster, database := key.database, schema := key.schema, name := key.name }

/-- The path of the table's detail page. -/
def path (key : Key) : String :=
  detailPath key.cluster key.database key.schema key.name

end Key

end CatalogView.Table
