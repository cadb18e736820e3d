import CatalogView.Text.Utf8

/-!
# Bytes of characters and texts

Characters of ASCII have one byte, their own code, and those beyond it have bytes beyond it only.
The bytes of a text are those of no other.
-/

namespace CatalogView.Text

/-- The bytes of a character of ASCII. -/
theorem utf8_encode_char_of_ascii {c : Char} (h : c.toNat < 128) :
    String.utf8EncodeChar c = [UInt8.ofNat c.toNat] := by
  have hval : c.val.toNat ≤ 127 := Nat.lt_succ_iff.1 h
  unfold String.utf8EncodeChar
  rw [if_pos hval]
  rfl

/-- The bytes of other characters are beyond ASCII. -/
theorem not_ascii_of_mem_utf8_encode_char {c : Char} (h : 128 ≤ c.toNat) {byte : UInt8}
    (hbyte : byte ∈ String.utf8EncodeChar c) : 128 ≤ byte.toNat := by
  have hval : ¬ c.val.toNat ≤ 127 := Nat.not_le.2 h
  have hlong : ∀ n, 128 ≤ n → n < 256 → 128 ≤ (UInt8.ofNat n).toNat := by
    intro n hlow hhigh
    rw [UInt8.toNat_ofNat']
    omega
  unfold String.utf8EncodeChar at hbyte
  rw [if_neg hval] at hbyte
  split at hbyte
  · simp only [List.mem_cons, List.not_mem_nil, or_false] at hbyte
    rcases hbyte with rfl | rfl <;> exact hlong _ (by omega) (by omega)
  · split at hbyte <;> simp only [List.mem_cons, List.not_mem_nil, or_false] at hbyte
    · rcases hbyte with rfl | rfl | rfl <;> exact hlong _ (by omega) (by omega)
    · rcases hbyte with rfl | rfl | rfl | rfl <;> exact hlong _ (by omega) (by omega)

/-- A character has at least one byte. -/
theorem length_utf8_encode_char_pos (c : Char) : 0 < (String.utf8EncodeChar c).length := by
  rw [String.length_utf8EncodeChar]
  exact c.utf8Size_pos

/-- Different texts have different bytes. -/
theorem utf8_encode_injective {text other : List Char} (h : Utf8.encode text = Utf8.encode other) :
    text = other := by
  have hdecode := congrArg Utf8.decode? h
  rw [Utf8.decode_encode, Utf8.decode_encode] at hdecode
  exact Option.some.inj hdecode

/-- Bytes are decoded as the text whose bytes they are. -/
theorem utf8_decode_eq_some_iff {bytes : Bytes} {text : List Char} :
    Utf8.decode? bytes = some text ↔ Utf8.encode text = bytes := by
  constructor
  · intro h
    obtain ⟨decoded, hdecoded, rfl⟩ := Option.map_eq_some_iff.1 h
    unfold String.fromUTF8? at hdecoded
    split at hdecoded
    next hvalid =>
      cases hdecoded
      -- the text that is made of valid bytes is written with them
      have hbytes : (Utf8.encode (String.fromUTF8 bytes.toByteArray hvalid).toList).toByteArray =
          bytes.toByteArray :=
        String.utf8Encode_toList
      have hlist := congrArg (fun array => array.data.toList) hbytes
      simpa only [List.data_toByteArray] using hlist
    next => cases hdecoded
  · rintro rfl
    exact Utf8.decode_encode text

/-- Characters that are left out of a text are left out of its bytes. -/
theorem utf8_encode_sublist {part text : List Char} (h : part.Sublist text) :
    (Utf8.encode part).Sublist (Utf8.encode text) := by
  induction h with
  | slnil => exact List.Sublist.refl []
  | cons c h ih => exact ih.trans (List.sublist_append_right _ _)
  | cons_cons c h ih => exact (List.append_sublist_append_left _).2 ih

end CatalogView.Text
