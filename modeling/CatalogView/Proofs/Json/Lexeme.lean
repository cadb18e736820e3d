import CatalogView.Json.Decode
import CatalogView.Json.Encode
import CatalogView.Proofs.Result
import CatalogView.Proofs.Text.Utf8

/-!
# Texts and counts read back

What is written of a text stands between quotes, so it is read whatever follows
(`read_text_append`). A count ends where its digits end, so it is read if what follows ends a value
(`read_count_append`).
-/

namespace CatalogView.Json

open CatalogView.Text

/-- What follows the blanks before something else. -/
theorem skip_blanks_cons {b : UInt8} (h : isBlank b = false) (rest : Bytes) :
    skipBlanks (b :: rest) = b :: rest := by
  simp [skipBlanks, h]

/-! ## Texts -/

/-- A byte that stands for itself in a string. -/
def IsPlain (b : UInt8) : Prop :=
  0x20 ≤ b.toNat ∧ b.toNat ≠ 0x22 ∧ b.toNat ≠ 0x5C

/-- A byte that stands for itself is taken over. -/
theorem string_from_plain {b : UInt8} (h : IsPlain b) (sofar rest : Bytes) :
    stringFrom .plain sofar (b :: rest) = stringFrom .plain (b :: sofar) rest := by
  obtain ⟨hcontrol, hquote, hbackslash⟩ := h
  have hquote' : b ≠ byte '"' := fun he => hquote (by rw [he]; rfl)
  have hbackslash' : b ≠ byte '\\' := fun he => hbackslash (by rw [he]; rfl)
  have hcontrol' : ¬ b < 0x20 := fun hlt => Nat.not_lt.2 hcontrol (UInt8.lt_iff_toNat_lt.1 hlt)
  simp [stringFrom, hquote', hbackslash', hcontrol']

/-- Bytes that stand for themselves are taken over. -/
theorem string_from_plain_append {bytes : Bytes} (h : ∀ b ∈ bytes, IsPlain b) (sofar rest : Bytes) :
    stringFrom .plain sofar (bytes ++ rest) = stringFrom .plain (bytes.reverse ++ sofar) rest := by
  induction bytes generalizing sofar with
  | nil => rfl
  | cons b bytes ih =>
      obtain ⟨hb, hbytes⟩ := List.forall_mem_cons.1 h
      rw [List.cons_append, string_from_plain hb, ih hbytes, List.reverse_cons, List.append_assoc]
      rfl

/-- The bytes of a character stand for themselves, unless it is a control, a quote or a
backslash. -/
theorem plain_of_mem_utf8_encode_char {c : Char} (hcontrol : 0x20 ≤ c.toNat) (hquote : c ≠ '"')
    (hbackslash : c ≠ '\\') {b : UInt8} (hb : b ∈ String.utf8EncodeChar c) : IsPlain b := by
  have hquote' : c.toNat ≠ 0x22 := fun he => hquote (Char.ext (UInt32.toNat_inj.1 he))
  have hbackslash' : c.toNat ≠ 0x5C := fun he => hbackslash (Char.ext (UInt32.toNat_inj.1 he))
  unfold IsPlain
  by_cases hascii : c.toNat < 128
  · rw [utf8_encode_char_of_ascii hascii] at hb
    obtain rfl := List.mem_singleton.1 hb
    rw [UInt8.toNat_ofNat']
    omega
  · have hbeyond := not_ascii_of_mem_utf8_encode_char (Nat.not_lt.1 hascii) hb
    omega

/-- The four digits of a control stand for it, and it is no half of a pair. -/
theorem hex_four_control : ∀ code < 0x20,
    hexFour? [hexByte (code % 16), hexByte (code / 16), byte '0', byte '0'] = some code ∧
      isTrailing code = false ∧ isLeading code = false := by
  decide

/-- A control is written as an escaped code unit. -/
theorem string_from_control {c : Char} (h : c.toNat < 0x20) (sofar rest : Bytes) :
    stringFrom .plain sofar
        (ascii ['\\', 'u', '0', '0'] ++ [hexByte (c.toNat / 16), hexByte (c.toNat % 16)] ++ rest) =
      stringFrom .plain ((String.utf8EncodeChar c).reverse ++ sofar) rest := by
  obtain ⟨hvalue, htrailing, hleading⟩ := hex_four_control c.toNat h
  have hcode : codeBytes c.toNat = String.utf8EncodeChar c := by rw [codeBytes, Char.ofNat_toNat]
  have hescape : byte '\\' ≠ byte '"' := by decide
  simp [ascii, stringFrom, hescape, hvalue, htrailing, hleading, hcode]

/-- A character that is written is read. -/
theorem string_from_char (c : Char) (sofar rest : Bytes) :
    stringFrom .plain sofar (charBytes c ++ rest) =
      stringFrom .plain ((String.utf8EncodeChar c).reverse ++ sofar) rest := by
  unfold charBytes
  split
  case h_8 hquote hbackslash _ _ _ _ _ =>
    split
    case isTrue hcontrol => exact string_from_control hcontrol sofar rest
    case isFalse hcontrol =>
      exact string_from_plain_append
        (fun b hb => plain_of_mem_utf8_encode_char (Nat.not_lt.1 hcontrol) hquote hbackslash hb)
        sofar rest
  -- the escapes of two characters
  all_goals rfl

/-- The characters up to the closing quote are read behind those that have been read. -/
theorem string_from_text (front text : List Char) (rest : Bytes) :
    stringFrom .plain (Utf8.encode front).reverse (text.flatMap charBytes ++ byte '"' :: rest) =
      .ok (String.ofList (front ++ text), rest) := by
  induction text generalizing front with
  | nil =>
      simp [stringFrom, Utf8.decode_encode]
  | cons c text ih =>
      have hfront : (String.utf8EncodeChar c).reverse ++ (Utf8.encode front).reverse =
          (Utf8.encode (front ++ [c])).reverse := by
        simp
      rw [List.flatMap_cons, List.append_assoc, string_from_char, hfront, ih, List.append_assoc]
      rfl

/-- A string is read up to its closing quote. -/
theorem read_string_append (text : String) (rest : Bytes) :
    readString (text.toList.flatMap charBytes ++ byte '"' :: rest) = .ok (text, rest) := by
  have h := string_from_text [] text.toList rest
  rwa [List.nil_append, String.ofList_toList] at h

/-- A text is read up to its end, whatever follows. -/
theorem read_text_append (text : String) (rest : Bytes) :
    readText (stringBytes text ++ rest) = .ok (text, rest) := by
  have h := read_string_append text rest
  simpa [readText, stringBytes, skip_blanks_cons (b := byte '"') rfl] using h

/-! ## Counts -/

/-- What is left after a value: nothing, a comma or a closing bracket. -/
def EndsValue (rest : Bytes) : Prop :=
  ∀ b ∈ rest.head?, b ∈ [byte ',', byte ']', byte '\x7d']

/-- The digits of a number. -/
structure IsNumeral (n : Nat) (first : UInt8) (more : Bytes) : Prop where
  digit : isDigit first = true
  digits : ∀ d ∈ more, isDigit d = true
  /-- No zero leads. -/
  zero : first = byte '0' → more = []
  value : more.foldl (fun sofar d => sofar * 10 + digitValue d) (digitValue first) = n

/-- The digits below ten. -/
theorem digit_of_lt_ten : ∀ d < 10, isDigit (byte (Nat.digitChar d)) = true ∧
    digitValue (byte (Nat.digitChar d)) = d ∧ (byte (Nat.digitChar d) = byte '0' → d = 0) := by
  decide

/-- A number is written with digits. -/
theorem exists_numeral (n : Nat) :
    ∃ first more, ascii (Nat.toDigits 10 n) = first :: more ∧ IsNumeral n first more := by
  induction n using Nat.strongRecOn with
  | ind n ih =>
      rcases Nat.lt_or_ge n 10 with hlt | hge
      · obtain ⟨hdigit, hvalue, -⟩ := digit_of_lt_ten n hlt
        refine ⟨_, [], ?_, hdigit, by simp, fun _ => rfl, hvalue⟩
        rw [Nat.toDigits_of_lt_base hlt]
        rfl
      · obtain ⟨first, more, htext, hfirst⟩ := ih (n / 10) (by omega)
        obtain ⟨hdigit, hvalue, -⟩ := digit_of_lt_ten (n % 10) (Nat.mod_lt n (by decide))
        refine ⟨first, more ++ [byte (Nat.digitChar (n % 10))], ?_, hfirst.digit, ?_, ?_, ?_⟩
        · rw [Nat.toDigits_of_base_le (by decide) hge, ascii, List.map_append, ← ascii, htext]
          rfl
        · intro d hd
          rcases List.mem_append.1 hd with hd | hd
          · exact hfirst.digits d hd
          · rw [List.mem_singleton.1 hd, hdigit]
        · intro hzero
          have hvalue := hfirst.value
          rw [hfirst.zero hzero, hzero] at hvalue
          have : (0 : Nat) = n / 10 := hvalue
          omega
        · rw [List.foldl_append, hfirst.value, List.foldl_cons, List.foldl_nil, hvalue]
          omega

/-- More digits make no smaller number. -/
theorem le_foldl_digits (digits : Bytes) (sofar : Nat) :
    sofar ≤ digits.foldl (fun sofar d => sofar * 10 + digitValue d) sofar := by
  induction digits generalizing sofar with
  | nil => exact Nat.le_refl sofar
  | cons d digits ih =>
      have hnext : sofar ≤ sofar * 10 + digitValue d := by omega
      exact Nat.le_trans hnext (ih _)

/-- The digits of a number that is not too large are all read. -/
theorem extend_eq_foldl {digits : Bytes} {significand n : Nat}
    (hvalue : digits.foldl (fun sofar d => sofar * 10 + digitValue d) significand = n)
    (hn : n ≤ maxSignificand) : extend significand digits = (n, 0) := by
  induction digits generalizing significand with
  | nil => rw [← hvalue]; rfl
  | cons d digits ih =>
      have hnext : significand * 10 + digitValue d ≤ maxSignificand :=
        Nat.le_trans (hvalue ▸ le_foldl_digits digits _) hn
      rw [extend, if_pos hnext]
      exact ih hvalue

/-- What is left goes on with no number. -/
def EndsNumber (rest : Bytes) : Prop :=
  ∀ b ∈ rest.head?, isDigit b = false ∧ b ≠ byte '.' ∧ isExponentMark b = false

/-- What is left after a value goes on with no number. -/
theorem EndsValue.number {rest : Bytes} (h : EndsValue rest) : EndsNumber rest := by
  intro b hb
  have hmem := h b hb
  simp only [List.mem_cons, List.not_mem_nil, or_false] at hmem
  rcases hmem with rfl | rfl | rfl <;> decide

/-- No digit comes next. -/
def EndsDigits (rest : Bytes) : Prop := ∀ b ∈ rest.head?, isDigit b = false

/-- What goes on with no number goes on with no digits. -/
theorem EndsNumber.digits {rest : Bytes} (h : EndsNumber rest) : EndsDigits rest :=
  fun b hb => (h b hb).1

/-- Digits end where no digit comes next. -/
theorem split_digits {digits rest : Bytes} (hdigits : ∀ d ∈ digits, isDigit d = true)
    (hrest : EndsDigits rest) :
    (digits ++ rest).takeWhile isDigit = digits ∧ (digits ++ rest).dropWhile isDigit = rest := by
  have hstop : rest.takeWhile isDigit = [] ∧ rest.dropWhile isDigit = rest := by
    cases rest with
    | nil => exact ⟨rfl, rfl⟩
    | cons b rest => simp [hrest b (by simp)]
  rw [List.takeWhile_append_of_pos hdigits, List.dropWhile_append_of_pos hdigits, hstop.1, hstop.2,
    List.append_nil]
  exact ⟨rfl, rfl⟩

/-- What comes behind the digits of a number decides how it is read. -/
theorem read_number_digits {first : UInt8} {more rest : Bytes} (hdigit : isDigit first = true)
    (hdigits : ∀ d ∈ more, isDigit d = true) (hzero : first = byte '0' → more = [])
    (hrest : EndsDigits rest) (negative : Bool) :
    readNumber negative (first :: (more ++ rest)) =
      match rest with
      | [] =>
        wholeNumber negative (extend (digitValue first) more).1
          (extend (digitValue first) more).2 []
      | c :: after =>
        if c = byte '.' then
          readFraction negative (extend (digitValue first) more).1
            (extend (digitValue first) more).2 after
        else if isExponentMark c then
          readExponent negative (extend (digitValue first) more).1
            (extend (digitValue first) more).2 after
        else
          wholeNumber negative (extend (digitValue first) more).1
            (extend (digitValue first) more).2 rest := by
  obtain ⟨htake, hdrop⟩ := split_digits hdigits hrest
  have hafter :
      (if first = byte '0' then more ++ rest else (more ++ rest).dropWhile isDigit) = rest := by
    split
    case isTrue hfirst => rw [hzero hfirst]; rfl
    case isFalse => exact hdrop
  have hmore : (if first = byte '0' then [] else (more ++ rest).takeWhile isDigit) = more := by
    split
    case isTrue hfirst => exact (hzero hfirst).symm
    case isFalse => exact htake
  simp only [readNumber, hdigit, hafter, hmore]
  cases rest with
  | nil => rfl
  | cons c after => simp [hrest c (by simp)]

/-- A natural number is read up to the end of its digits. -/
theorem read_number_append {n : Nat} {first : UInt8} {more rest : Bytes}
    (hnumeral : IsNumeral n first more) (hn : n ≤ maxSignificand) (hrest : EndsNumber rest) :
    readNumber false (first :: (more ++ rest)) = .ok (.integer n, rest) := by
  rw [read_number_digits hnumeral.digit hnumeral.digits hnumeral.zero hrest.digits,
    extend_eq_foldl hnumeral.value hn]
  cases rest with
  | nil => rfl
  | cons c after =>
      obtain ⟨-, hpoint, hmark⟩ := hrest c (by simp)
      simp [hpoint, hmark, wholeNumber]

/-- A digit is no other byte. -/
theorem ne_of_digit {b c : UInt8} (hb : isDigit b = true) (hc : isDigit c = false) : b ≠ c := by
  rintro rfl
  exact Bool.false_ne_true (hc.symm.trans hb)

/-- A digit is no blank. -/
theorem not_blank_of_digit {b : UInt8} (h : isDigit b = true) : isBlank b = false := by
  simp [isBlank, ne_of_digit (c := byte ' ') h rfl, ne_of_digit (c := byte '\n') h rfl,
    ne_of_digit (c := byte '\t') h rfl, ne_of_digit (c := byte '\r') h rfl]

/-- A number within the bounds is taken for a count. -/
theorem count_of_integer (n : UInt32) (rest : Bytes) :
    countOf (.integer n.toNat) rest = .ok (n, rest) := by
  have hlt : (n.toNat : Int) < Int.pow 2 32 := Int.ofNat_lt.2 n.toNat_lt
  simp only [countOf]
  rw [if_pos ⟨Int.natCast_nonneg _, hlt⟩, Int.toNat_natCast, UInt32.ofNat_toNat]

/-- A count is read up to the end of its digits. -/
theorem read_count_append (n : UInt32) {rest : Bytes} (hrest : EndsValue rest) :
    readCount (ascii (Nat.toDigits 10 n.toNat) ++ rest) = .ok (n, rest) := by
  obtain ⟨first, more, htext, hnumeral⟩ := exists_numeral n.toNat
  have hn : n.toNat ≤ maxSignificand := Nat.le_trans (Nat.le_of_lt n.toNat_lt) (by decide)
  have hminus : first ≠ byte '-' := ne_of_digit hnumeral.digit rfl
  have hblank := skip_blanks_cons (not_blank_of_digit hnumeral.digit) (more ++ rest)
  simp only [htext, List.cons_append, readCount, hblank, if_neg hminus, hnumeral.digit, if_true,
    read_number_append hnumeral hn hrest.number, ok_bind]
  exact count_of_integer n rest

end CatalogView.Json
