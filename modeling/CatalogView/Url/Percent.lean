import CatalogView.Text.CodeSet
import CatalogView.Text.Utf8

/-!
# Percent encoding

A byte that may not stand in a part of an address is written as a percent sign and two hexadecimal
digits. Which bytes those are depends on the part. `decode_encode_bytes` says that decoding gives
back what was encoded, if the percent sign is among them.
-/

namespace CatalogView.Url.Percent

open CatalogView.Text

/-- The hexadecimal digit of a number below sixteen, in upper case. -/
def upperDigit (n : Nat) : Char :=
  if n < 10 then Char.ofNat (48 + n) else Char.ofNat (55 + n)

/-- The escape of a byte. -/
def escape (byte : UInt8) : List Char :=
  ['%', upperDigit (byte.toNat / 16), upperDigit (byte.toNat % 16)]

/-- A set of characters that must be escaped. Bytes beyond ASCII always must. -/
abbrev Set := Char → Bool

/-- A byte in a part with a set. -/
def encodeByte (set : Set) (byte : UInt8) : List Char :=
  let c := Char.ofNat byte.toNat
  if byte.toNat < 128 && !set c then [c] else escape byte

/-- Bytes in a part with a set. -/
def encodeBytes (set : Set) (bytes : Bytes) : List Char :=
  bytes.flatMap (encodeByte set)

/-- A text in a part with a set. -/
def encode (set : Set) (text : List Char) : List Char :=
  encodeBytes set (Utf8.encode text)

/-- The bytes that a text with escapes stands for. A percent sign without two digits after it stands
for itself. -/
def decode : List Char → Bytes
  | [] => []
  | '%' :: a :: b :: rest =>
    match hexDigit? a, hexDigit? b with
    | some high, some low => UInt8.ofNat (high * 16 + low) :: decode rest
    | _, _ => 0x25 :: decode (a :: b :: rest)
  | c :: rest => Utf8.encode [c] ++ decode rest

/-! ## Reading back -/

/-- The digit of a number is read as that number. -/
theorem hex_digit_upper_digit {n : Nat} (h : n < 16) : hexDigit? (upperDigit n) = some n := by
  have : ∀ k : Fin 16, hexDigit? (upperDigit k) = some k.val := by decide
  exact this ⟨n, h⟩

/-- A character other than the percent sign stands for its own bytes. -/
theorem decode_cons_of_ne {c : Char} (h : c ≠ '%') (rest : List Char) :
    decode (c :: rest) = Utf8.encode [c] ++ decode rest := by
  rw [decode]
  intro a b tail hc _
  exact h hc

/-- The bytes of a character of ASCII. -/
theorem encode_ofNat_of_lt {n : Nat} (h : n < 128) :
    Utf8.encode [Char.ofNat n] = [UInt8.ofNat n] := by
  have : ∀ k : Fin 128, Utf8.encode [Char.ofNat k.val] = [UInt8.ofNat k.val] := by decide +kernel
  exact this ⟨n, h⟩

/-- A byte is read back from what is written for it, if the set has the percent sign. -/
theorem decode_encode_byte {set : Set} (h : set '%' = true) (byte : UInt8) (rest : List Char) :
    decode (encodeByte set byte ++ rest) = byte :: decode rest := by
  have hbyte : byte.toNat < 256 := byte.toNat_lt
  simp only [encodeByte]
  split
  · rename_i hkept
    simp only [Bool.and_eq_true, decide_eq_true_eq, Bool.not_eq_true'] at hkept
    have hne : Char.ofNat byte.toNat ≠ '%' := by
      intro heq
      rw [heq, h] at hkept
      exact absurd hkept.2 (by simp)
    rw [List.singleton_append, decode_cons_of_ne hne, encode_ofNat_of_lt hkept.1,
      UInt8.ofNat_toNat, List.singleton_append]
  · show decode ('%' :: upperDigit _ :: upperDigit _ :: rest) = _
    rw [decode, hex_digit_upper_digit (by omega), hex_digit_upper_digit (by omega)]
    simp only [Nat.div_add_mod', UInt8.ofNat_toNat]

/-- Bytes are read back from what is written for them, if the set has the percent sign. -/
theorem decode_encode_bytes {set : Set} (h : set '%' = true) (bytes : Bytes) :
    decode (encodeBytes set bytes) = bytes := by
  induction bytes with
  | nil => rfl
  | cons byte bytes ih =>
      show decode (encodeByte set byte ++ encodeBytes set bytes) = _
      rw [decode_encode_byte h, ih]

/-! ## The sets of the parts -/

/-- Controls of ASCII. -/
def control : Set := fun c => c < ' ' || c = '\x7F'

/-- What a fragment escapes. -/
def fragment : Set := fun c => control c || c ∈ [' ', '"', '<', '>', '`']

/-- What a path escapes. -/
def path : Set := fun c => fragment c || c ∈ ['#', '?', '\x7b', '\x7d']

/-- What the name and the password of a user escape. -/
def userinfo : Set := fun c =>
  path c || c ∈ ['/', ':', ';', '=', '@', '[', '\\', ']', '^', '|']

/-- What a query escapes. -/
def query : Set := fun c => control c || c ∈ [' ', '"', '#', '<', '>']

/-- What a query escapes under a scheme that has addresses of its own form. -/
def specialQuery : Set := fun c => query c || c = '\''

end CatalogView.Url.Percent
