import CatalogView.Url.Percent

/-!
# Queries of forms

A form writes its fields into a query with a stricter set of escapes, in which a space becomes a
plus sign. `decode_encode` says that reading a field gives back what was written.
-/

namespace CatalogView.Url.Form

open CatalogView.Text

/-- The characters that stand for themselves. -/
def isKept (c : Char) : Bool :=
  c.isAlphanum || c ∈ ['*', '-', '.', '_']

/-- A byte in a field. -/
def encodeByte (byte : UInt8) : List Char :=
  if byte = 0x20 then ['+'] else Percent.encodeByte (!isKept ·) byte

/-- A text in a field. -/
def encode (text : List Char) : List Char :=
  (Utf8.encode text).flatMap encodeByte

/-- A space for a plus sign. -/
def spaced (c : Char) : Char := if c = '+' then ' ' else c

/-- The bytes that a field stands for. -/
def decode (field : List Char) : Bytes :=
  Percent.decode (field.map spaced)

/-- The characters that are neither kept nor a space. -/
def isEscaped (c : Char) : Bool := !isKept c && c ≠ ' '

/-- A byte in a field is an escape, with spaces for plus signs. -/
theorem map_encode_byte (byte : UInt8) :
    (encodeByte byte).map spaced = Percent.encodeByte isEscaped byte := by
  have hall : ∀ k : Fin 256, (encodeByte (UInt8.ofNat k.val)).map spaced =
      Percent.encodeByte isEscaped (UInt8.ofNat k.val) := by decide +kernel
  have hbyte := hall ⟨byte.toNat, byte.toNat_lt⟩
  simpa only [UInt8.ofNat_toNat] using hbyte

/-- Reading a field gives back the text that was written. -/
theorem decode_encode (text : List Char) : decode (encode text) = Utf8.encode text := by
  have hmap : (encode text).map spaced =
      Percent.encodeBytes isEscaped (Utf8.encode text) := by
    unfold encode Percent.encodeBytes
    rw [List.map_flatMap]
    simp only [map_encode_byte]
  rw [decode, hmap, Percent.decode_encode_bytes rfl]

/-- The query of a form with one field. -/
def query (name value : List Char) : List Char :=
  encode name ++ '=' :: encode value

end CatalogView.Url.Form
