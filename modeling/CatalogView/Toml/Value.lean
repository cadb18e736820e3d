/-!
# TOML values

A TOML document is a table. Its headers and keys build the table up step by step, and how a table
came about decides what may still be added to it: `Fields.assign`, `Fields.openTable` and
`Fields.openItem` refuse what would define a key twice.
-/

namespace CatalogView.Toml

/-- How a table came about. -/
inductive Origin where
  /-- It is written within braces and complete. -/
  | inline
  /-- A header names it, or it is the document. -/
  | header
  /-- The header of a table within it implies it. -/
  | implied
  /-- A key with dots implies it. -/
  | dotted
  deriving DecidableEq, Repr

/-- Whether a key with dots may reach into a table that came about so. -/
def Origin.isOpen : Origin → Bool
  | .implied | .dotted => true
  | .inline | .header => false

/-- A value. Of numbers with a fraction and of dates only the text is kept. -/
inductive Value where
  | string (text : String)
  | integer (n : Int)
  | float (text : String)
  | boolean (b : Bool)
  | date (text : String)
  | array (items : List Value)
  | table (origin : Origin) (fields : List (String × Value))
  /-- An array of tables that have headers. The last one stands first. -/
  | tables (items : List (List (String × Value)))

/-- The fields of a table in the order in which they were set. -/
abbrev Fields := List (String × Value)

namespace Fields

/-- The value of a field. -/
def get? (fields : Fields) (key : String) : Option Value :=
  fields.lookup key

/-- Sets a field, where it stands or else after all others. -/
def set (key : String) (value : Value) : Fields → Fields
  | [] => [(key, value)]
  | (name, old) :: rest =>
    if name = key then (key, value) :: rest else (name, old) :: set key value rest

/-- Sets a field that is not set yet. -/
def add? (fields : Fields) (key : String) (value : Value) : Option Fields :=
  match fields.get? key with
  | some _ => none
  | none => some (fields.set key value)

/-- Changes the table that the parts of a key lead to and creates those that are not there. A
field of a complete table or of no table leads nowhere. -/
def alterDotted (change : Origin → Fields → Option Fields) :
    List String → Origin → Fields → Option Fields
  | [], origin, fields => change origin fields
  | part :: parts, _, fields =>
    match fields.get? part with
    | none => do
      let inner ← alterDotted change parts .dotted []
      return fields.set part (.table .dotted inner)
    | some (.table origin inner) =>
      if origin.isOpen then do
        let inner ← alterDotted change parts origin inner
        return fields.set part (.table origin inner)
      else none
    | some (.tables (item :: items)) => do
      let item ← alterDotted change parts .header item
      return fields.set part (.tables (item :: items))
    | some _ => none

/-- Sets a field by a key with dots, as far as nothing is defined twice. The table before the last
dot must be one that keys with dots have built. -/
def assign (fields : Fields) (parts : List String) (key : String) (value : Value) :
    Option Fields :=
  alterDotted
    (fun origin inner =>
      if parts ≠ [] ∧ origin ≠ .dotted then none else inner.add? key value)
    parts .header fields

/-- Changes the table that a header's path leads to and creates those that are not there. Of an
array of tables it is the last one. -/
def alterAt (change : Fields → Option Fields) : List String → Fields → Option Fields
  | [], fields => change fields
  | part :: parts, fields =>
    match fields.get? part with
    | none => do
      let inner ← alterAt change parts []
      return fields.set part (.table .implied inner)
    | some (.table .inline _) => none
    | some (.table origin inner) => do
      let inner ← alterAt change parts inner
      return fields.set part (.table origin inner)
    | some (.tables (item :: items)) => do
      let item ← alterAt change parts item
      return fields.set part (.tables (item :: items))
    | some _ => none

/-- Opens the table of a header. It may be there already if it was only implied by the headers of
tables within it. -/
def openTable (fields : Fields) (parts : List String) (key : String) : Option Fields :=
  alterAt
    (fun inner =>
      match inner.get? key with
      | none => some (inner.set key (.table .header []))
      | some (.table .implied fields) => some (inner.set key (.table .header fields))
      | some _ => none)
    parts fields

/-- Opens a new table at the end of an array of tables. -/
def openItem (fields : Fields) (parts : List String) (key : String) : Option Fields :=
  alterAt
    (fun inner =>
      match inner.get? key with
      | none => some (inner.set key (.tables [[]]))
      | some (.tables items) => some (inner.set key (.tables ([] :: items)))
      | some _ => none)
    parts fields

end Fields

end CatalogView.Toml
