import CatalogView.Proofs.Text.Utf8
import CatalogView.Url.Percent
import Mathlib.Data.List.Basic
import Mathlib.Tactic.ByContra

/-!
# Escapes that were there before

Most parts of an address escape neither the percent sign nor hexadecimal digits, so what looks like
an escape in a text stays one in the address. `decode_encode_of_keeps` says that reading such a part
is reading the text itself, and `decode_eq_or_shorter` that this gives the text back unless bytes
are lost.
-/

namespace CatalogView.Url.Percent

open CatalogView.Text

/-- The set leaves escapes alone. -/
structure Set.KeepsEscapes (set : Set) : Prop where
  percent : set '%' = false
  digit : ∀ c, (hexDigit? c).isSome = true → set c = false

/-- A hexadecimal digit is a character of ASCII. -/
theorem ascii_of_hex_digit {c : Char} (h : (hexDigit? c).isSome = true) : c.toNat < 128 := by
  by_contra hlarge
  have hnone : hexDigit? c = none := by
    unfold hexDigit?
    simp only [Char.le_def, UInt32.le_iff_toNat_le]
    have hc : c.toNat = c.val.toNat := rfl
    have h9 : '9'.val.toNat = 57 := rfl
    have hf : 'f'.val.toNat = 102 := rfl
    have hF : 'F'.val.toNat = 70 := rfl
    rw [if_neg (by omega), if_neg (by omega), if_neg (by omega)]
  rw [hnone] at h
  cases h

/-- A path leaves escapes alone. -/
theorem path_keeps_escapes : path.KeepsEscapes where
  percent := by decide
  digit c h := by
    have hall : ∀ n : Fin 128, (hexDigit? (Char.ofNat n.val)).isSome = true →
        path (Char.ofNat n.val) = false := by decide
    have hascii := hall ⟨c.toNat, ascii_of_hex_digit h⟩
    rw [Char.ofNat_toNat] at hascii
    exact hascii h

variable {set : Set}

/-- What is written for a character and then for a text. -/
theorem encode_cons_eq (set : Set) (c : Char) (text : List Char) :
    encode set (c :: text) = encode set [c] ++ encode set text := by
  unfold encode encodeBytes
  rw [Utf8.encode_cons, Utf8.encode_cons, Utf8.encode_nil, List.append_nil, List.flatMap_append]

/-- A character of ASCII outside the set stands for itself. -/
theorem encode_kept {c : Char} (hascii : c.toNat < 128) (hset : set c = false) :
    encode set [c] = [c] := by
  have hbyte : (UInt8.ofNat c.toNat).toNat = c.toNat := by
    rw [UInt8.toNat_ofNat']
    omega
  unfold encode encodeBytes
  rw [Utf8.encode_cons, Utf8.encode_nil, List.append_nil, utf8_encode_char_of_ascii hascii,
    List.flatMap_cons, List.flatMap_nil, List.append_nil, encodeByte, hbyte, Char.ofNat_toNat]
  simp [hascii, hset]

/-- All bytes of any other character are escaped. -/
theorem encode_escaped {c : Char} (h : 128 ≤ c.toNat ∨ set c = true) :
    encode set [c] = (String.utf8EncodeChar c).flatMap escape := by
  unfold encode encodeBytes
  rw [Utf8.encode_cons, Utf8.encode_nil, List.append_nil]
  refine List.flatMap_congr fun byte hbyte => ?_
  unfold encodeByte
  by_cases hascii : c.toNat < 128
  · have hset : set c = true := h.resolve_left (Nat.not_le.2 hascii)
    rw [utf8_encode_char_of_ascii hascii] at hbyte
    obtain rfl := List.mem_singleton.1 hbyte
    have hnat : (UInt8.ofNat c.toNat).toNat = c.toNat := by
      rw [UInt8.toNat_ofNat']
      omega
    rw [hnat, Char.ofNat_toNat]
    simp [hset]
  · have hlarge := not_ascii_of_mem_utf8_encode_char (Nat.not_lt.1 hascii) hbyte
    simp [Nat.not_lt.2 hlarge]

/-- A character is either kept or escaped. -/
theorem encode_cases (set : Set) (c : Char) :
    (c.toNat < 128 ∧ set c = false ∧ encode set [c] = [c]) ∨
      encode set [c] = (String.utf8EncodeChar c).flatMap escape := by
  by_cases hascii : c.toNat < 128
  · cases hset : set c with
    | false => exact .inl ⟨hascii, rfl, encode_kept hascii hset⟩
    | true => exact .inr (encode_escaped (.inr hset))
  · exact .inr (encode_escaped (.inl (Nat.not_lt.1 hascii)))

/-- Escaped bytes are read back. -/
theorem decode_escapes (bytes : Bytes) (rest : List Char) :
    decode (bytes.flatMap escape ++ rest) = bytes ++ decode rest := by
  induction bytes with
  | nil => rfl
  | cons byte bytes ih =>
      have hbyte : byte.toNat < 256 := byte.toNat_lt
      show decode ('%' :: upperDigit _ :: upperDigit _ :: (bytes.flatMap escape ++ rest)) = _
      rw [decode, hex_digit_upper_digit (by omega), hex_digit_upper_digit (by omega)]
      simp only [Nat.div_add_mod', UInt8.ofNat_toNat, ih]
      rfl

/-! ## Escapes of a text -/

/-- The byte of an escape, from what follows the percent sign, and what follows the escape. -/
def readPair? : List Char → Option (UInt8 × List Char)
  | a :: b :: rest =>
    match hexDigit? a, hexDigit? b with
    | some high, some low => some (UInt8.ofNat (high * 16 + low), rest)
    | _, _ => none
  | _ => none

/-- A percent sign begins an escape, or else it stands for itself. -/
theorem decode_percent (text : List Char) :
    decode ('%' :: text) =
      (readPair? text).elim (0x25 :: decode text) fun (byte, rest) => byte :: decode rest := by
  match text with
  | [] => rfl
  | [a] => rfl
  | a :: b :: rest =>
      rw [decode, readPair?]
      cases hexDigit? a <;> cases hexDigit? b <;> rfl

/-- An escape has two characters behind the percent sign. -/
theorem eq_cons_of_read_pair {text rest : List Char} {byte : UInt8}
    (h : readPair? text = some (byte, rest)) : ∃ a b, text = a :: b :: rest := by
  match text with
  | [] => cases h
  | [a] => cases h
  | a :: b :: after =>
      rw [readPair?] at h
      split at h
      next =>
        cases h
        exact ⟨a, b, rfl⟩
      next => cases h

/-- A text is gone through from one character to the next, and from an escape to what follows it. -/
@[elab_as_elim]
theorem escapes_induction {motive : List Char → Prop} (nil : motive [])
    (other : ∀ c rest, c ≠ '%' → motive rest → motive (c :: rest))
    (percent : ∀ rest, readPair? rest = none → motive rest → motive ('%' :: rest))
    (escape : ∀ byte a b rest, readPair? (a :: b :: rest) = some (byte, rest) → motive rest →
      motive ('%' :: a :: b :: rest))
    (text : List Char) : motive text := by
  match text with
  | [] => exact nil
  | c :: rest =>
      have ih := escapes_induction nil other percent escape rest
      by_cases hc : c = '%'
      · subst hc
        cases hpair : readPair? rest with
        | none => exact percent rest hpair ih
        | some pair =>
            obtain ⟨byte, after⟩ := pair
            obtain ⟨a, b, rfl⟩ := eq_cons_of_read_pair hpair
            exact escape byte a b after hpair (escapes_induction nil other percent escape after)
      · exact other c rest hc ih
termination_by text.length

/-- There is no escape where the first character is no hexadecimal digit. -/
theorem read_pair_of_first {a : Char} (h : (hexDigit? a).isSome = false) (rest : List Char) :
    readPair? (a :: rest) = none := by
  have hnone : hexDigit? a = none := by simpa using h
  cases rest with
  | nil => rfl
  | cons b rest => rw [readPair?, hnone]

/-- Nor where the second one is none. -/
theorem read_pair_of_second (a : Char) {b : Char} (h : (hexDigit? b).isSome = false)
    (rest : List Char) : readPair? (a :: b :: rest) = none := by
  have hnone : hexDigit? b = none := by simpa using h
  rw [readPair?, hnone]
  cases hexDigit? a <;> rfl

/-- A hexadecimal digit stands for itself where escapes are left alone. -/
theorem encode_hex_digit (h : set.KeepsEscapes) {c : Char} (hc : (hexDigit? c).isSome = true)
    (text : List Char) : encode set (c :: text) = c :: encode set text := by
  rw [encode_cons_eq, encode_kept (ascii_of_hex_digit hc) (h.digit c hc), List.singleton_append]

/-- What is written for a text that begins with no hexadecimal digit begins with none. -/
theorem encode_begins (set : Set) {c : Char} (h : (hexDigit? c).isSome = false)
    (text : List Char) :
    ∃ d rest, encode set (c :: text) = d :: rest ∧ (hexDigit? d).isSome = false := by
  rw [encode_cons_eq]
  rcases encode_cases set c with ⟨-, -, hkept⟩ | hescaped
  · rw [hkept]
    exact ⟨c, encode set text, rfl, h⟩
  · rw [hescaped]
    cases hbytes : String.utf8EncodeChar c with
    | nil =>
        have hpos := length_utf8_encode_char_pos c
        rw [hbytes] at hpos
        cases hpos
    | cons byte bytes => exact ⟨'%', _, rfl, by decide⟩

/-- An escape in a text stays there, and none comes into being. -/
theorem read_pair_encode (h : set.KeepsEscapes) (text : List Char) :
    readPair? (encode set text) =
      (readPair? text).map fun (byte, rest) => (byte, encode set rest) := by
  match text with
  | [] => rfl
  | a :: rest =>
      cases ha : (hexDigit? a).isSome with
      | false =>
          obtain ⟨d, after, hafter, hd⟩ := encode_begins set ha rest
          rw [hafter, read_pair_of_first hd, read_pair_of_first ha]
          rfl
      | true =>
          rw [encode_hex_digit h ha]
          match rest with
          | [] => rfl
          | b :: rest =>
              cases hb : (hexDigit? b).isSome with
              | false =>
                  obtain ⟨d, after, hafter, hd⟩ := encode_begins set hb rest
                  rw [hafter, read_pair_of_second a hd, read_pair_of_second a hb]
                  rfl
              | true =>
                  obtain ⟨high, hhigh⟩ := Option.isSome_iff_exists.1 ha
                  obtain ⟨low, hlow⟩ := Option.isSome_iff_exists.1 hb
                  rw [encode_hex_digit h hb, readPair?, readPair?, hhigh, hlow]
                  rfl

/-- A part that leaves escapes alone is read as the text that it was written for. -/
theorem decode_encode_of_keeps (h : set.KeepsEscapes) (text : List Char) :
    decode (encode set text) = decode text := by
  have hpercent : ∀ rest, encode set ('%' :: rest) = '%' :: encode set rest := by
    intro rest
    rw [encode_cons_eq, encode_kept (by decide) h.percent, List.singleton_append]
  induction text using escapes_induction with
  | nil => rfl
  | other c rest hc ih =>
      rw [encode_cons_eq, decode_cons_of_ne hc, ← ih]
      rcases encode_cases set c with ⟨-, -, hkept⟩ | hescaped
      · rw [hkept, List.singleton_append, decode_cons_of_ne hc]
      · rw [hescaped, decode_escapes, Utf8.encode_cons, Utf8.encode_nil, List.append_nil]
  | percent rest hpair ih =>
      rw [hpercent, decode_percent, decode_percent, read_pair_encode h, hpair]
      exact congrArg (0x25 :: ·) ih
  | escape byte a b rest hpair ih =>
      rw [hpercent, decode_percent, decode_percent, read_pair_encode h, hpair]
      exact congrArg (byte :: ·) ih

/-- A text without escapes is read as it is. Otherwise there are less bytes than it has. -/
theorem decode_eq_or_shorter (text : List Char) :
    decode text = Utf8.encode text ∨ (decode text).length < (Utf8.encode text).length := by
  have hbytes : ∀ rest, Utf8.encode ('%' :: rest) = 0x25 :: Utf8.encode rest := fun _ => rfl
  induction text using escapes_induction with
  | nil => exact .inl rfl
  | other c rest hc ih =>
      rw [decode_cons_of_ne hc, Utf8.encode_cons, Utf8.encode_cons, Utf8.encode_nil,
        List.append_nil]
      rcases ih with heq | hlt
      · exact .inl (by rw [heq])
      · exact .inr (by simpa using hlt)
  | percent rest hpair ih =>
      rw [decode_percent, hpair, hbytes]
      show 0x25 :: decode rest = _ ∨ (0x25 :: decode rest).length < _
      rcases ih with heq | hlt
      · exact .inl (by rw [heq])
      · exact .inr (by simpa using hlt)
  | escape byte a b rest hpair ih =>
      have hle : (decode rest).length ≤ (Utf8.encode rest).length := by
        rcases ih with heq | hlt
        · exact Nat.le_of_eq (congrArg List.length heq)
        · exact Nat.le_of_lt hlt
      have ha := length_utf8_encode_char_pos a
      rw [decode_percent, hpair, hbytes]
      show byte :: decode rest = _ ∨ (byte :: decode rest).length < _
      right
      simp only [Utf8.encode_cons, List.length_cons, List.length_append]
      omega

end CatalogView.Url.Percent
