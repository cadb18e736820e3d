import CatalogView.Text.Numeral

/-!
# Numerals read back

Digits are read as the number that they stand for (`nat_of_digits`), with any of the readers and as
long as the number fits (`uint32_of_digits`, `int64_of_digits`). So a number is read back from the
digits that it is written with (`nat_to_digits`). Nothing else is read but such digits
(`nat_eq_some_iff`), behind a sign where a reader takes one (`unsigned_eq_some_iff`,
`signed_eq_some_iff`).
-/

namespace CatalogView.Text

/-- A digit lies between the first digit and the last. -/
theorem is_digit_iff {c : Char} : isDigit c = true ↔ 48 ≤ c.toNat ∧ c.toNat ≤ 57 := by
  simp only [isDigit, Bool.and_eq_true, decide_eq_true_eq, Char.le_def, UInt32.le_iff_toNat_le]
  exact Iff.rfl

/-- Digits are read as the number that they stand for, behind the one read so far. -/
theorem nat_from_eq {digits : List Char} (h : ∀ c ∈ digits, isDigit c = true) (sofar : Nat) :
    natFrom? sofar digits = some (Nat.ofDigitChars 10 digits sofar) := by
  induction digits generalizing sofar with
  | nil => rfl
  | cons c digits ih =>
      obtain ⟨hc, hdigits⟩ := List.forall_mem_cons.1 h
      rw [natFrom?, if_pos hc, ih hdigits, Nat.ofDigitChars_cons, Nat.mul_comm]
      rfl

/-- A number is written with digits. -/
theorem is_digit_of_mem_to_digits {n : Nat} {c : Char} (h : c ∈ Nat.toDigits 10 n) :
    isDigit c = true := by
  have hdigit := Nat.isDigit_of_mem_toDigits (by decide) (by decide) h
  simp only [Char.isDigit, Bool.and_eq_true, decide_eq_true_eq, ge_iff_le,
    UInt32.le_iff_toNat_le] at hdigit
  exact is_digit_iff.2 hdigit

/-- The number that digits stand for. -/
def natOf (digits : List Char) : Nat :=
  Nat.ofDigitChars 10 digits 0

/-- A number is what its digits stand for. -/
theorem nat_of_to_digits (n : Nat) : natOf (Nat.toDigits 10 n) = n :=
  Nat.ofDigitChars_toDigits (by decide) (by decide)

variable {digits : List Char}

/-- Digits are read as the number that they stand for. -/
theorem nat_of_digits (h : ∀ c ∈ digits, isDigit c = true) (hne : digits ≠ []) :
    nat? digits = some (natOf digits) := by
  cases digits with
  | nil => exact absurd rfl hne
  | cons c digits => exact nat_from_eq h 0

/-- A number is read back from its digits. -/
theorem nat_to_digits (n : Nat) : nat? (Nat.toDigits 10 n) = some n := by
  rw [nat_of_digits (fun c => is_digit_of_mem_to_digits) Nat.toDigits_ne_nil, nat_of_to_digits]

/-- Digits have no plus sign, so a reader that takes one reads them as they are. -/
theorem unsigned_of_digits (h : ∀ c ∈ digits, isDigit c = true) (hne : digits ≠ []) :
    unsigned? digits = some (natOf digits) := by
  unfold unsigned?
  split
  next => exact absurd (h '+' (List.mem_cons_self ..)) (by decide)
  next => exact nat_of_digits h hne

/-- Neither have they a minus sign. -/
theorem signed_of_digits (h : ∀ c ∈ digits, isDigit c = true) (hne : digits ≠ []) :
    signed? digits = some (natOf digits : Int) := by
  unfold signed?
  split
  next => exact absurd (h '-' (List.mem_cons_self ..)) (by decide)
  next =>
    rw [unsigned_of_digits h hne]
    rfl

/-- Digits are read as a number of 32 bits if theirs is one. -/
theorem uint32_of_digits (h : ∀ c ∈ digits, isDigit c = true) (hne : digits ≠ [])
    (hfits : natOf digits < UInt32.size) : uint32? digits = some (.ofNat (natOf digits)) := by
  rw [uint32?, unsigned_of_digits h hne, Option.bind_some, if_pos hfits]

/-- Digits are read as a number of 64 bits with a sign if theirs is one, and otherwise not. -/
theorem int64_of_digits (h : ∀ c ∈ digits, isDigit c = true) (hne : digits ≠ []) :
    int64? digits =
      if natOf digits ≤ 9223372036854775807 then some (.ofInt (natOf digits)) else none := by
  have hrange : Int64.minValue.toInt ≤ (natOf digits : Int) ∧
      (natOf digits : Int) ≤ Int64.maxValue.toInt ↔ natOf digits ≤ 9223372036854775807 := by
    rw [show Int64.minValue.toInt = -9223372036854775808 from rfl,
      show Int64.maxValue.toInt = 9223372036854775807 from rfl]
    omega
  rw [int64?, signed_of_digits h hne, Option.bind_some]
  simp only [hrange]

/-! ## What is read -/

variable {text : List Char} {n : Nat}

/-- What is read behind a number are digits. -/
theorem digits_of_nat_from {sofar : Nat} (h : natFrom? sofar text = some n) :
    ∀ c ∈ text, isDigit c = true := by
  induction text generalizing sofar with
  | nil => exact List.forall_mem_nil _
  | cons c text ih =>
      rw [natFrom?] at h
      split at h
      next hc => exact List.forall_mem_cons.2 ⟨hc, ih h⟩
      next => cases h

/-- Digits are read, and nothing else is. -/
theorem nat_eq_some_iff :
    nat? text = some n ↔ text ≠ [] ∧ (∀ c ∈ text, isDigit c = true) ∧ natOf text = n := by
  constructor
  · intro h
    have hne : text ≠ [] := by
      rintro rfl
      cases h
    have hdigits : ∀ c ∈ text, isDigit c = true := by
      cases text with
      | nil => exact absurd rfl hne
      | cons c text => exact digits_of_nat_from h
    rw [nat_of_digits hdigits hne] at h
    exact ⟨hne, hdigits, Option.some.inj h⟩
  · rintro ⟨hne, hdigits, rfl⟩
    exact nat_of_digits hdigits hne

/-- What begins with no digit is no number. -/
theorem nat_of_not_digit {c : Char} (hc : isDigit c = false) : nat? (c :: text) = none := by
  rw [nat?, natFrom?, hc]
  rfl

/-- One plus sign may stand before digits. -/
theorem unsigned_eq_some_iff :
    unsigned? text = some n ↔
      ∃ digits, (text = digits ∨ text = '+' :: digits) ∧ nat? digits = some n := by
  unfold unsigned?
  split
  next digits =>
    constructor
    · intro h
      exact ⟨digits, .inr rfl, h⟩
    · rintro ⟨others, rfl | hothers, h⟩
      · rw [nat_of_not_digit rfl] at h
        cases h
      · cases hothers
        exact h
  next hplus =>
    constructor
    · intro h
      exact ⟨text, .inl rfl, h⟩
    · rintro ⟨digits, rfl | rfl, h⟩
      · exact h
      · exact absurd rfl (hplus digits)

/-- A sign before digits. -/
inductive Sign where
  | plus
  | minus
  deriving DecidableEq, Repr

namespace Sign

/-- A sign as it is written. No sign is not written. -/
def chars : Option Sign → List Char
  | none => []
  | some .plus => ['+']
  | some .minus => ['-']

/-- What a number is multiplied by for its sign. -/
def factor : Option Sign → Int
  | some .minus => -1
  | none | some .plus => 1

end Sign

/-- Digits behind a minus sign are read as the number below zero. -/
theorem signed_minus (digits : List Char) :
    signed? ('-' :: digits) = (nat? digits).map fun size : Nat => -1 * (size : Int) := by
  simp only [signed?]
  cases nat? digits with
  | none => rfl
  | some size => exact congrArg some (Int.neg_one_mul _).symm

/-- What begins otherwise is read as a number without a minus sign. -/
theorem signed_of_not_minus (h : ∀ digits, text ≠ '-' :: digits) :
    signed? text = (unsigned? text).map fun size : Nat => 1 * (size : Int) := by
  unfold signed?
  split
  next digits => exact absurd rfl (h digits)
  next =>
    cases unsigned? text with
    | none => rfl
    | some size => exact congrArg some (Int.one_mul _).symm

/-- One sign may stand before digits. -/
theorem signed_eq_some_iff {n : Int} :
    signed? text = some n ↔
      ∃ (sign? : Option Sign) (digits : List Char) (size : Nat),
        text = Sign.chars sign? ++ digits ∧ nat? digits = some size ∧
          Sign.factor sign? * size = n := by
  by_cases hminus : ∃ digits, text = '-' :: digits
  · obtain ⟨digits, rfl⟩ := hminus
    rw [signed_minus, Option.map_eq_some_iff]
    constructor
    · rintro ⟨size, hsize, rfl⟩
      exact ⟨some .minus, digits, size, rfl, hsize, rfl⟩
    · rintro ⟨sign?, others, size, hothers, hsize, rfl⟩
      rcases sign? with _ | _ | _
      · -- without a sign the minus would have to be a digit
        cases hothers
        rw [nat_of_not_digit rfl] at hsize
        cases hsize
      · cases hothers
      · cases hothers
        exact ⟨size, hsize, rfl⟩
  · rw [signed_of_not_minus fun digits h => hminus ⟨digits, h⟩, Option.map_eq_some_iff]
    constructor
    · rintro ⟨size, hread, rfl⟩
      obtain ⟨digits, rfl | rfl, hsize⟩ := unsigned_eq_some_iff.1 hread
      · exact ⟨none, _, size, rfl, hsize, rfl⟩
      · exact ⟨some .plus, digits, size, rfl, hsize, rfl⟩
    · rintro ⟨sign?, digits, size, rfl, hsize, rfl⟩
      rcases sign? with _ | _ | _
      · exact ⟨size, unsigned_eq_some_iff.2 ⟨digits, .inl rfl, hsize⟩, rfl⟩
      · exact ⟨size, unsigned_eq_some_iff.2 ⟨digits, .inr rfl, hsize⟩, rfl⟩
      · exact absurd ⟨digits, rfl⟩ hminus

/-- A number of 32 bits is read if it is written. -/
theorem uint32_eq_some_iff {word : UInt32} :
    uint32? text = some word ↔ unsigned? text = some word.toNat := by
  unfold uint32?
  rw [Option.bind_eq_some_iff]
  constructor
  · rintro ⟨n, hn, hword⟩
    split at hword
    next hfits =>
      cases hword
      rw [UInt32.toNat_ofNat_of_lt' hfits, hn]
    next => cases hword
  · intro h
    exact ⟨word.toNat, h, by rw [if_pos word.toNat_lt, UInt32.ofNat_toNat]⟩

/-- A number of 64 bits with a sign is read if it is written. -/
theorem int64_eq_some_iff {word : Int64} :
    int64? text = some word ↔ signed? text = some word.toInt := by
  unfold int64?
  rw [Option.bind_eq_some_iff]
  constructor
  · rintro ⟨n, hn, hword⟩
    split at hword
    next hfits =>
      cases hword
      rw [Int64.toInt_ofInt_of_le hfits.1 (Int.lt_add_one_of_le hfits.2), hn]
    next => cases hword
  · intro h
    exact ⟨word.toInt, h, by rw [if_pos ⟨word.minValue_le_toInt, word.toInt_le⟩, Int64.ofInt_toInt]⟩

end CatalogView.Text
