/-!
# Texts as bytes

UTF-8 writes a text as bytes. `decode_encode` says that reading gives back what was written.
-/

namespace CatalogView.Text

/-- A sequence of bytes. -/
abbrev Bytes := List UInt8

namespace Utf8

/-- The bytes of a text. -/
def encode (text : List Char) : Bytes :=
  text.flatMap String.utf8EncodeChar

/-- The text that the bytes encode, if they are UTF-8. -/
def decode? (bytes : Bytes) : Option (List Char) :=
  (String.fromUTF8? bytes.toByteArray).map String.toList

@[simp] theorem encode_nil : encode [] = [] := rfl

@[simp] theorem encode_cons (c : Char) (text : List Char) :
    encode (c :: text) = String.utf8EncodeChar c ++ encode text := rfl

@[simp] theorem encode_append (front back : List Char) :
    encode (front ++ back) = encode front ++ encode back := by
  simp [encode]

/-- The bytes of a text decode to that text. -/
theorem decode_encode (text : List Char) : decode? (encode text) = some text := by
  have hbytes : (encode text).toByteArray = (String.ofList text).toByteArray := by
    rw [String.toByteArray_ofList]
    rfl
  have hvalid : (encode text).toByteArray.IsValidUTF8 := by
    rw [hbytes]
    exact (String.ofList text).isValidUTF8
  rw [decode?, String.fromUTF8?, dif_pos hvalid, Option.map_some]
  congr 1
  have : String.fromUTF8 (encode text).toByteArray hvalid = String.ofList text := by
    apply String.toByteArray_inj.mp
    exact hbytes
  rw [this, String.toList_ofList]

end Utf8

end CatalogView.Text
