import CatalogView.Proofs.Text.Numeral
import Mathlib.Algebra.Order.Floor.Semiring
import Mathlib.Data.Rat.Floor
import Mathlib.Tactic.FieldSimp
import Mathlib.Tactic.Linarith
import Mathlib.Tactic.Positivity
import Mathlib.Tactic.Ring

/-!
# Decimal fractions

Digits behind a point stand for a fraction (`fractionOf`), and digits put behind others add a
fraction of their last place (`fraction_append`). So digits that are cut off after some places, or
filled up to them with zeros, stand for the fraction counted in units of the last place and rounded
down (`nat_of_cut_at`).
-/

namespace CatalogView.Text

variable {digits : List Char}

/-- Digits put behind others move those up by their number. -/
theorem nat_of_append (front back : List Char) :
    natOf (front ++ back) = 10 ^ back.length * natOf front + natOf back := by
  unfold natOf
  rw [Nat.ofDigitChars_append, Nat.ofDigitChars_eq_ofDigitChars_zero]

/-- Zeros are digits. -/
theorem digits_zeros (count : Nat) : ∀ c ∈ List.replicate count '0', isDigit c = true := by
  intro c hc
  rw [List.eq_of_mem_replicate hc]
  rfl

/-- Zeros stand for zero. -/
theorem nat_of_zeros (count : Nat) : natOf (List.replicate count '0') = 0 := by
  induction count with
  | zero => rfl
  | succ count ih => rw [List.replicate_succ', nat_of_append, ih]; rfl

/-- There are as many numbers as digits can tell apart. -/
theorem nat_of_lt (h : ∀ c ∈ digits, isDigit c = true) : natOf digits < 10 ^ digits.length := by
  induction digits with
  | nil => decide
  | cons c digits ih =>
      obtain ⟨hc, hdigits⟩ := List.forall_mem_cons.1 h
      have hfirst : natOf [c] ≤ 9 := by
        obtain ⟨_, hhigh⟩ := is_digit_iff.1 hc
        show 10 * 0 + (c.toNat - 48) ≤ 9
        omega
      have hrest := ih hdigits
      calc natOf (c :: digits) = 10 ^ digits.length * natOf [c] + natOf digits :=
            nat_of_append [c] digits
        _ < 10 ^ digits.length * 9 + 10 ^ digits.length :=
            Nat.add_lt_add_of_le_of_lt (Nat.mul_le_mul_left _ hfirst) hrest
        _ = 10 ^ (c :: digits).length := by rw [List.length_cons]; ring

/-- Digits stand for zero if and only if they are zeros. -/
theorem nat_of_eq_zero_iff (h : ∀ c ∈ digits, isDigit c = true) :
    natOf digits = 0 ↔ ∀ c ∈ digits, c = '0' := by
  induction digits with
  | nil => exact ⟨fun _ => List.forall_mem_nil _, fun _ => rfl⟩
  | cons c digits ih =>
      obtain ⟨hc, hdigits⟩ := List.forall_mem_cons.1 h
      have hfirst : natOf [c] = 0 ↔ c = '0' := by
        obtain ⟨hlow, -⟩ := is_digit_iff.1 hc
        rw [Char.ext_iff, UInt32.ext_iff]
        show 10 * 0 + (c.toNat - 48) = 0 ↔ c.toNat = 48
        omega
      have hsplit : natOf (c :: digits) = 10 ^ digits.length * natOf [c] + natOf digits :=
        nat_of_append [c] digits
      rw [hsplit, Nat.add_eq_zero_iff, Nat.mul_eq_zero, ih hdigits, hfirst, List.forall_mem_cons,
        or_iff_right (Nat.pow_eq_zero.not.2 (by omega))]

/-- The fraction that digits behind a point stand for. -/
def fractionOf (digits : List Char) : ℚ :=
  natOf digits / 10 ^ digits.length

/-- Counted in units of the last place, digits behind a point are a number. -/
theorem fraction_mul (digits : List Char) :
    fractionOf digits * 10 ^ digits.length = natOf digits := by
  unfold fractionOf
  field_simp

/-- A fraction is not negative. -/
theorem fraction_nonneg (digits : List Char) : 0 ≤ fractionOf digits := by
  unfold fractionOf
  positivity

/-- A fraction is less than one. -/
theorem fraction_lt_one (h : ∀ c ∈ digits, isDigit c = true) : fractionOf digits < 1 := by
  have hlt : (natOf digits : ℚ) < 10 ^ digits.length := by exact_mod_cast nat_of_lt h
  unfold fractionOf
  rw [div_lt_one (by positivity)]
  exact hlt

/-- Digits put behind others add a fraction of their last place. -/
theorem fraction_append (front back : List Char) :
    fractionOf (front ++ back) = fractionOf front + fractionOf back / 10 ^ front.length := by
  unfold fractionOf
  rw [nat_of_append, List.length_append, pow_add]
  push_cast
  field_simp

/-- Zeros behind a fraction do not change it. -/
theorem fraction_append_zeros (digits : List Char) (count : Nat) :
    fractionOf (digits ++ List.replicate count '0') = fractionOf digits := by
  have hzeros : fractionOf (List.replicate count '0') = 0 := by
    unfold fractionOf
    rw [nat_of_zeros, Nat.cast_zero, zero_div]
  rw [fraction_append, hzeros, zero_div, add_zero]

/-- The digits in front of some place, with zeros up to that place where there are none. -/
def cutAt (places : Nat) (digits : List Char) : List Char :=
  digits.take places ++ List.replicate (places - (digits.take places).length) '0'

/-- There are as many of them as there are places. -/
theorem length_cut_at (places : Nat) (digits : List Char) :
    (cutAt places digits).length = places := by
  unfold cutAt
  rw [List.length_append, List.length_replicate, List.length_take]
  omega

/-- They are digits like those that are cut. -/
theorem digits_cut_at (places : Nat) (h : ∀ c ∈ digits, isDigit c = true) :
    ∀ c ∈ cutAt places digits, isDigit c = true :=
  List.forall_mem_append.2 ⟨fun c hc => h c (List.mem_of_mem_take hc), digits_zeros _⟩

/-- What is cut off stands behind the place. -/
theorem cut_at_append (places : Nat) (digits : List Char) :
    cutAt places digits ++ digits.drop places =
      digits ++ List.replicate (places - (digits.take places).length) '0' := by
  unfold cutAt
  rcases Nat.le_total digits.length places with hle | hle
  · rw [List.take_of_length_le hle, List.drop_of_length_le hle, List.append_nil]
  · rw [List.length_take, Nat.min_eq_left hle, Nat.sub_self, List.replicate_zero, List.append_nil,
      List.append_nil, List.take_append_drop]

/-- Digits that are cut at a place stand for the units of that place, rounded down. -/
theorem nat_of_cut_at (places : Nat) (h : ∀ c ∈ digits, isDigit c = true) :
    natOf (cutAt places digits) = ⌊fractionOf digits * 10 ^ places⌋₊ := by
  have hrest : ∀ c ∈ digits.drop places, isDigit c = true :=
    fun c hc => h c (List.mem_of_mem_drop hc)
  -- what stands behind the place is a fraction of its unit
  have hsplit : fractionOf digits * 10 ^ places =
      natOf (cutAt places digits) + fractionOf (digits.drop places) := by
    calc fractionOf digits * 10 ^ places
        = fractionOf (cutAt places digits ++ digits.drop places) * 10 ^ places := by
          rw [cut_at_append, fraction_append_zeros]
      _ = fractionOf (cutAt places digits) * 10 ^ places + fractionOf (digits.drop places) := by
          rw [fraction_append, length_cut_at]
          field_simp
      _ = natOf (cutAt places digits) + fractionOf (digits.drop places) := by
          rw [← fraction_mul (cutAt places digits), length_cut_at]
  symm
  rw [Nat.floor_eq_iff (mul_nonneg (fraction_nonneg digits) (by positivity)), hsplit]
  constructor
  · exact le_add_of_nonneg_right (fraction_nonneg _)
  · exact add_lt_add_right (fraction_lt_one hrest) _

end CatalogView.Text
