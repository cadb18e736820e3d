import CatalogView.Json.Lexeme

/-!
# Shapes of JSON documents

A `Shape` says which documents stand for values of a type, and `Shape.Value` is that type. Reading
and writing are defined once for all shapes, by recursion on them: `Json.Decode` reads the values
of a shape and `Json.Encode` writes them.
-/

namespace CatalogView.Json

mutual

/-- What a document has to look like: a text, a count of 32 bits, a value or null, a list, or a
record with a name. -/
inductive Shape where
  | text
  | count
  | optional (inner : Shape)
  | list (element : Shape)
  | record (name : String) (fields : Fields)

/-- The fields of a record in their order. A field that may be left out stands for the blank value
of its shape then. -/
inductive Fields where
  | nil
  | cons (name : String) (shape : Shape) (mayBeOmitted : Bool) (rest : Fields)

end

mutual

/-- The values of a shape. -/
def Shape.Value : Shape → Type
  | .text => String
  | .count => UInt32
  | .optional inner => Option inner.Value
  | .list element => List element.Value
  | .record _ fields => fields.Values

/-- The values of the fields of a record. -/
def Fields.Values : Fields → Type
  | .nil => Unit
  | .cons _ shape _ rest => shape.Value × rest.Values

end

mutual

/-- The empty text, zero, null, the empty list, or the record of such values. -/
def Shape.blank : (shape : Shape) → shape.Value
  | .text => ""
  | .count => (0 : UInt32)
  | .optional inner => (none : Option inner.Value)
  | .list element => ([] : List element.Value)
  | .record _ fields => fields.blanks

/-- The blank values of the fields of a record. -/
def Fields.blanks : (fields : Fields) → fields.Values
  | .nil => ()
  | .cons _ shape _ rest => (shape.blank, rest.blanks)

end

/-- What a field stands for in an object that lacks it although it may not be left out: null where
the shape allows it. -/
def Shape.absent? : (shape : Shape) → Option shape.Value
  | .optional inner => some (none : Option inner.Value)
  | .text | .count | .list _ | .record _ _ => none

/-- The value is null where the shape allows it. -/
def Shape.isNull : (shape : Shape) → shape.Value → Bool
  | .optional inner, value => Option.isNone (α := inner.Value) value
  | .text, _ | .count, _ | .list _, _ | .record _ _, _ => false

/-- The values of the fields of a record that have been read, while it is read. -/
def Fields.Slots : Fields → Type
  | .nil => Unit
  | .cons _ shape _ rest => Option shape.Value × rest.Slots

/-- No field has been read. -/
def Fields.unread : (fields : Fields) → fields.Slots
  | .nil => ()
  | .cons _ _ _ rest => (none, rest.unread)

/-- The values of a record once all of it has been read, unless a field is missing. -/
def Fields.close : (fields : Fields) → fields.Slots → Except Mismatch fields.Values
  | .nil, _ => .ok ()
  | .cons name shape mayBeOmitted rest, (slot, slots) => do
    let value ←
      match slot with
      | some value => .ok value
      | none =>
        if mayBeOmitted then .ok shape.blank
        else match shape.absent? with
          | some value => .ok value
          | none => .error (.missingField name)
    let values ← rest.close slots
    pure (value, values)

/-- The number of fields. -/
def Fields.size : Fields → Nat
  | .nil => 0
  | .cons _ _ _ rest => rest.size + 1

end CatalogView.Json
