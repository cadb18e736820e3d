import CatalogView.Proofs.Text.Utf8
import CatalogView.Url.Form

/-!
# What fields are made of

`IsField` is the grammar of the fields of a form: none of their characters could end a field or a
query. `encode_is_field` says that whatever a text holds, the field for it is one of them, and
`encode_injective` that it is the field of no other text.
-/

namespace CatalogView.Url.Form

open CatalogView.Text

/-- The characters besides letters and digits that a field can hold outside its escapes. -/
def marks : List Char := ['*', '-', '.', '_', '+']

/-- The digits of an escape. -/
def escapeDigits : List Char := "0123456789ABCDEF".toList

/-- A field: letters and digits of ASCII, a few marks and escapes, in any order. -/
inductive IsField : List Char → Prop where
  | nil : IsField []
  | char (c rest) : c.isAlphanum = true ∨ c ∈ marks → IsField rest → IsField (c :: rest)
  | escape (high low rest) : high ∈ escapeDigits → low ∈ escapeDigits → IsField rest →
      IsField ('%' :: high :: low :: rest)

/-- Two fields, one behind the other, are a field. -/
theorem IsField.append {front back : List Char} (hfront : IsField front) (hback : IsField back) :
    IsField (front ++ back) := by
  induction hfront with
  | nil => exact hback
  | char c rest hc _ ih => exact .char c _ hc ih
  | escape high low rest hhigh hlow _ ih => exact .escape high low _ hhigh hlow ih

/-- The digit of a number below sixteen can stand in an escape. -/
theorem upper_digit_mem {n : Nat} (h : n < 16) : Percent.upperDigit n ∈ escapeDigits := by
  have hall : ∀ k : Fin 16, Percent.upperDigit k.val ∈ escapeDigits := by decide
  exact hall ⟨n, h⟩

/-- The escape of a byte is a field. -/
theorem escape_is_field (byte : UInt8) : IsField (Percent.escape byte) := by
  have hbyte : byte.toNat < 256 := byte.toNat_lt
  exact .escape _ _ _ (upper_digit_mem (by omega)) (upper_digit_mem (by omega)) .nil

/-- A character that stands for itself is a field. -/
theorem field_of_kept {c : Char} (h : isKept c = true) : IsField [c] := by
  refine .char c [] ?_ .nil
  rw [isKept, Bool.or_eq_true, decide_eq_true_eq] at h
  rcases h with halphanum | hmark
  · exact .inl halphanum
  · exact .inr (List.mem_append_left ['+'] hmark)

/-- What is written for a byte is a field. -/
theorem encode_byte_is_field (byte : UInt8) : IsField (encodeByte byte) := by
  unfold encodeByte Percent.encodeByte
  split
  case isTrue => exact .char '+' [] (.inr (by decide)) .nil
  case isFalse =>
    dsimp only
    split
    case isTrue hkept =>
      rw [Bool.and_eq_true, Bool.not_not] at hkept
      exact field_of_kept hkept.2
    case isFalse => exact escape_is_field byte

/-- What is written for a text is a field. -/
theorem encode_is_field (text : List Char) : IsField (encode text) := by
  unfold encode
  induction Utf8.encode text with
  | nil => exact .nil
  | cons byte bytes ih => exact (encode_byte_is_field byte).append ih

/-- Different texts have different fields. -/
theorem encode_injective {text other : List Char} (h : encode text = encode other) :
    text = other := by
  have hbytes := congrArg decode h
  rw [decode_encode, decode_encode] at hbytes
  exact utf8_encode_injective hbytes

end CatalogView.Url.Form
