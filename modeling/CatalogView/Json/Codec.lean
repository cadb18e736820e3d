import CatalogView.Json.Decode
import CatalogView.Json.Encode

/-!
# Types with a JSON form

A `Codec` ties a type to the values of a shape. A type with a codec is read from documents by
`Codec.decode` and written by `Codec.encode`.
-/

namespace CatalogView.Json

open CatalogView.Text

/-- The shape of the documents of a type, and what their values stand for. -/
structure Codec (α : Type) where
  shape : Shape
  ofValue : shape.Value → α
  toValue : α → shape.Value
  ofValue_toValue : ∀ a, ofValue (toValue a) = a

namespace Codec

/-- Lists of a type. -/
def list {α : Type} (codec : Codec α) : Codec (List α) where
  shape := .list codec.shape
  ofValue values := List.map codec.ofValue values
  toValue items := List.map codec.toValue items
  ofValue_toValue items := by
    rw [List.map_map, show codec.ofValue ∘ codec.toValue = id from funext codec.ofValue_toValue,
      List.map_id]

/-- Reads a whole document. -/
def decode {α : Type} (codec : Codec α) (document : Bytes) : Except Fault α :=
  (codec.shape.decode document).map codec.ofValue

/-- Writes a document. -/
def encode {α : Type} (codec : Codec α) (a : α) : Bytes :=
  codec.shape.encode (codec.toValue a)

end Codec

end CatalogView.Json
