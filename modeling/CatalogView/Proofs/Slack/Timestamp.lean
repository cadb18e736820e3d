import CatalogView.Proofs.Text.Decimal
import CatalogView.Slack.Timestamp
import Mathlib.Data.List.TakeWhile
import Mathlib.Data.Prod.Lex

/-!
# Timestamps that are written with digits

A `Stamp` is a timestamp as it is sent: digits, and perhaps a point with digits behind it. It stands
for a number of seconds (`Stamp.value`), however many digits it has. `stamp_read_exactly` says which
stamps are read, and that their instants are their numbers, cut off after whole microseconds. So
instants follow each other as the numbers do, it does not matter how a number is spelled, and an
instant of whole microseconds is read back.
-/

namespace CatalogView.Time

/-- The seconds between the beginning of 1970 and an instant. -/
def Instant.value (instant : Instant) : ℚ :=
  instant.seconds + instant.nanos / 10 ^ 9

/-- Seconds and a number of nanoseconds that is less than a second make an instant, unless they lie
behind the years that are kept. -/
theorem Instant.of_parts (seconds : Int64) {nanos : UInt32} (hseconds : 0 ≤ seconds.toInt)
    (hnanos : nanos.toNat < 1000000000) :
    ofParts? seconds nanos =
      if seconds.toInt ≤ 8210266876799 then some ⟨seconds.toInt, nanos.toNat⟩ else none := by
  unfold ofParts?
  have hmin : minSeconds ≤ seconds.toInt := Int.le_trans (by decide) hseconds
  by_cases hmax : seconds.toInt ≤ 8210266876799
  · rw [if_pos ⟨hmin, hmax, .inl hnanos⟩, if_pos hmax]
  · rw [if_neg fun h => hmax h.2.1, if_neg hmax]

end CatalogView.Time

namespace CatalogView.Slack

open CatalogView.Text CatalogView.Time

/-! ## Parts of a timestamp -/

/-- What stands before the point goes with the part before it. -/
theorem split_append {front : List Char} (h : '.' ∉ front) (text : List Char) :
    splitTimestamp (front ++ text) =
      (front ++ (splitTimestamp text).1, (splitTimestamp text).2) := by
  have hfront : ∀ c ∈ front, decide (c ≠ '.') = true := by
    intro c hc
    exact decide_eq_true fun heq => h (heq ▸ hc)
  unfold splitTimestamp
  rw [List.takeWhile_append_of_pos hfront, List.dropWhile_append_of_pos hfront]

/-- There is no point in digits. -/
theorem point_not_mem {digits : List Char} (h : ∀ c ∈ digits, isDigit c = true) :
    '.' ∉ digits :=
  fun hmem => absurd (h '.' hmem) (by decide)

/-- The part behind the point is cut off or filled up, and read as a number. -/
theorem micros_eq_cut (fraction : List Char) : micros? fraction = uint32? (cutAt 6 fraction) := by
  unfold micros?
  split
  next hnil =>
    rw [hnil]
    rfl
  next => rfl

/-! ## Stamps -/

/-- A timestamp in digits: those of the seconds, and perhaps a point and those of a fraction. -/
structure Stamp where
  whole : List Char
  fraction? : Option (List Char)
  whole_ne_nil : whole ≠ []
  whole_digits : ∀ c ∈ whole, isDigit c = true
  fraction_digits : ∀ c ∈ fraction?.getD [], isDigit c = true

namespace Stamp

variable {first second : Stamp}

/-- The digits behind the point, if there are any. -/
def fraction (stamp : Stamp) : List Char :=
  stamp.fraction?.getD []

/-- The timestamp as it is written. -/
def text (stamp : Stamp) : String :=
  match stamp.fraction? with
  | none => .ofList stamp.whole
  | some fraction => .ofList (stamp.whole ++ '.' :: fraction)

/-- The number that is written. -/
def value (stamp : Stamp) : ℚ :=
  natOf stamp.whole + fractionOf stamp.fraction

/-- The whole microseconds in the fraction. -/
def micros (stamp : Stamp) : ℕ :=
  ⌊fractionOf stamp.fraction * 10 ^ 6⌋₊

/-! ## Reading a stamp -/

/-- A stamp is split at its point. -/
theorem split_text (stamp : Stamp) :
    splitTimestamp stamp.text.toList = (stamp.whole, stamp.fraction) := by
  have hwhole := split_append (point_not_mem stamp.whole_digits)
  unfold text fraction
  cases stamp.fraction? with
  | none =>
      have hsplit := hwhole []
      rw [List.append_nil] at hsplit
      rw [String.toList_ofList, hsplit]
      exact congrArg (·, []) (List.append_nil stamp.whole)
  | some fraction =>
      rw [String.toList_ofList, hwhole ('.' :: fraction)]
      exact congrArg (·, fraction) (List.append_nil stamp.whole)

/-- There are less than a million microseconds in a fraction. -/
theorem micros_lt (stamp : Stamp) : stamp.micros < 1000000 := by
  have hlt : fractionOf stamp.fraction * 10 ^ 6 < 10 ^ 6 :=
    mul_lt_of_lt_one_left (by positivity) (fraction_lt_one stamp.fraction_digits)
  unfold micros
  rw [Nat.floor_lt (mul_nonneg (fraction_nonneg _) (by positivity))]
  exact_mod_cast hlt

/-- The fraction of a stamp is read as its whole microseconds. -/
theorem micros_eq (stamp : Stamp) : micros? stamp.fraction = some (.ofNat stamp.micros) := by
  have hcut : natOf (cutAt 6 stamp.fraction) = stamp.micros :=
    nat_of_cut_at 6 stamp.fraction_digits
  have hne : cutAt 6 stamp.fraction ≠ [] := List.ne_nil_of_length_eq_add_one (length_cut_at 6 _)
  have hfits : natOf (cutAt 6 stamp.fraction) < UInt32.size := by
    have hlt := stamp.micros_lt
    rw [hcut]
    show stamp.micros < 4294967296
    omega
  rw [micros_eq_cut, ← hcut]
  exact uint32_of_digits (digits_cut_at 6 stamp.fraction_digits) hne hfits

/-- A million microseconds have few enough nanoseconds for 32 bits. -/
theorem nanos_eq (stamp : Stamp) :
    (UInt32.ofNat stamp.micros * 1000).toNat = 1000 * stamp.micros := by
  have hlt := stamp.micros_lt
  rw [UInt32.toNat_mul, UInt32.toNat_ofNat_of_lt' (show stamp.micros < 4294967296 by omega)]
  show stamp.micros * 1000 % 4294967296 = 1000 * stamp.micros
  omega

/-- Seconds that are read are those of the stamp. -/
theorem seconds_eq (stamp : Stamp) {seconds : Int64} (h : int64? stamp.whole = some seconds) :
    seconds.toInt = natOf stamp.whole := by
  rw [int64_of_digits stamp.whole_digits stamp.whole_ne_nil] at h
  split at h
  next hfits =>
    cases h
    exact Int64.toInt_ofInt_of_le (by omega) (by omega)
  next => cases h

/-- A stamp is read as its seconds and its whole microseconds, unless it lies behind the years that
are kept. -/
theorem instant_eq (stamp : Stamp) :
    instant? stamp.text =
      if natOf stamp.whole ≤ 8210266876799 then
        some ⟨natOf stamp.whole, 1000 * stamp.micros⟩
      else none := by
  have hmicros := stamp.micros_lt
  unfold instant?
  simp only [split_text, micros_eq]
  cases hread : int64? stamp.whole with
  | none =>
      -- what 64 bits do not hold lies behind the calendar anyway
      have hlarge : ¬ natOf stamp.whole ≤ 8210266876799 := by
        intro hle
        rw [int64_of_digits stamp.whole_digits stamp.whole_ne_nil, if_pos (by omega)] at hread
        cases hread
      rw [if_neg hlarge]
      rfl
  | some seconds =>
      have hseconds := stamp.seconds_eq hread
      have hnanos := stamp.nanos_eq
      show Instant.ofParts? seconds (UInt32.ofNat stamp.micros * 1000) = _
      rw [Instant.of_parts seconds (by omega) (by omega), hseconds, hnanos]
      simp only [Nat.cast_le_ofNat]

/-- A stamp is read if the years that are kept have its second. -/
theorem is_read_iff (stamp : Stamp) :
    (∃ instant, instant? stamp.text = some instant) ↔ natOf stamp.whole ≤ 8210266876799 := by
  rw [instant_eq]
  constructor
  · rintro ⟨instant, hinstant⟩
    by_contra hlarge
    rw [if_neg hlarge] at hinstant
    cases hinstant
  · intro hle
    exact ⟨_, if_pos hle⟩

/-- There is one instant that a stamp can be read as. -/
theorem eq_of_read {stamp : Stamp} {instant : Instant} (h : instant? stamp.text = some instant) :
    instant = ⟨natOf stamp.whole, 1000 * stamp.micros⟩ := by
  rw [instant_eq] at h
  split at h
  next => exact (Option.some.inj h).symm
  next => cases h

/-! ## The number of a stamp -/

/-- The seconds of a stamp are its number, rounded down. -/
theorem floor_value (stamp : Stamp) : ⌊stamp.value⌋₊ = natOf stamp.whole := by
  have hzero : ⌊fractionOf stamp.fraction⌋₊ = 0 :=
    Nat.floor_eq_zero.2 (fraction_lt_one stamp.fraction_digits)
  unfold value
  rw [add_comm, Nat.floor_add_natCast (fraction_nonneg _), hzero, zero_add]

/-- The fraction of a stamp is what its number has beyond the seconds. -/
theorem fraction_eq (stamp : Stamp) :
    fractionOf stamp.fraction = stamp.value - ⌊stamp.value⌋₊ := by
  rw [floor_value]
  unfold value
  ring

/-- Stamps of the same number are read as the same instant, or neither is read. -/
theorem instant_of_value_eq (h : first.value = second.value) :
    instant? first.text = instant? second.text := by
  have hwhole : natOf first.whole = natOf second.whole := by
    rw [← floor_value, ← floor_value, h]
  have hmicros : first.micros = second.micros := by
    unfold micros
    rw [fraction_eq, fraction_eq, h]
  rw [instant_eq, instant_eq, hwhole, hmicros]

/-- Seconds come first in the order of numbers, and then microseconds. -/
theorem le_of_value_le (h : first.value ≤ second.value) :
    natOf first.whole < natOf second.whole ∨
      natOf first.whole = natOf second.whole ∧ first.micros ≤ second.micros := by
  have hwhole : natOf first.whole ≤ natOf second.whole := by
    rw [← floor_value, ← floor_value]
    exact Nat.floor_mono h
  rcases Nat.lt_or_eq_of_le hwhole with hlt | heq
  · exact .inl hlt
  · refine .inr ⟨heq, Nat.floor_mono (mul_le_mul_of_nonneg_right ?_ (by positivity))⟩
    unfold value at h
    rw [heq] at h
    exact le_of_add_le_add_left h

/-- An instant is the number of its stamp without what is less than a microsecond. -/
theorem value_bounds {stamp : Stamp} {instant : Instant} (h : instant? stamp.text = some instant) :
    instant.value ≤ stamp.value ∧ stamp.value < instant.value + 1 / 10 ^ 6 := by
  have hlow : (stamp.micros : ℚ) ≤ fractionOf stamp.fraction * 10 ^ 6 :=
    Nat.floor_le (mul_nonneg (fraction_nonneg _) (by positivity))
  have hhigh : fractionOf stamp.fraction * 10 ^ 6 < stamp.micros + 1 := Nat.lt_floor_add_one _
  rw [eq_of_read h]
  unfold Instant.value value
  push_cast
  constructor
  · linarith
  · linarith

/-! ## Zeros -/

/-- The stamp with zeros before its seconds and behind its fraction. -/
def withZeros (stamp : Stamp) (before behind : ℕ) : Stamp where
  whole := List.replicate before '0' ++ stamp.whole
  fraction? := some (stamp.fraction ++ List.replicate behind '0')
  whole_ne_nil := List.append_ne_nil_of_right_ne_nil _ stamp.whole_ne_nil
  whole_digits := List.forall_mem_append.2 ⟨digits_zeros before, stamp.whole_digits⟩
  fraction_digits := List.forall_mem_append.2 ⟨stamp.fraction_digits, digits_zeros behind⟩

/-- The zeros do not change the number. -/
theorem value_with_zeros (stamp : Stamp) (before behind : ℕ) :
    (stamp.withZeros before behind).value = stamp.value := by
  show (natOf (List.replicate before '0' ++ stamp.whole) : ℚ) +
    fractionOf (stamp.fraction ++ List.replicate behind '0') = stamp.value
  rw [nat_of_append, nat_of_zeros, Nat.mul_zero, Nat.zero_add, fraction_append_zeros]
  rfl

/-! ## Instants that are written -/

/-- The stamp of seconds and microseconds, in six places behind the point. -/
def ofMicros (seconds micros : ℕ) : Stamp where
  whole := Nat.toDigits 10 seconds
  fraction? := some (Decimal.padZeros 6 (Decimal.natDigits micros))
  whole_ne_nil := Nat.toDigits_ne_nil
  whole_digits := fun _ => is_digit_of_mem_to_digits
  fraction_digits :=
    List.forall_mem_append.2 ⟨digits_zeros _, fun _ => is_digit_of_mem_to_digits⟩

/-- Less than a million microseconds fill six places. -/
theorem micros_of_micros (seconds : ℕ) {micros : ℕ} (h : micros < 10 ^ 6) :
    (ofMicros seconds micros).micros = micros := by
  have hlength : (Decimal.padZeros 6 (Decimal.natDigits micros)).length = 6 := by
    have hle : (Nat.toDigits 10 micros).length ≤ 6 :=
      (Nat.length_toDigits_le_iff (by decide) (by decide)).2 h
    unfold Decimal.padZeros Decimal.natDigits
    rw [List.length_append, List.length_replicate]
    omega
  have hnat : natOf (Decimal.padZeros 6 (Decimal.natDigits micros)) = micros := by
    unfold Decimal.padZeros Decimal.natDigits
    rw [nat_of_append, nat_of_zeros, nat_of_to_digits, Nat.mul_zero, Nat.zero_add]
  have hfraction := fraction_mul (Decimal.padZeros 6 (Decimal.natDigits micros))
  rw [hlength, hnat] at hfraction
  show ⌊fractionOf (Decimal.padZeros 6 (Decimal.natDigits micros)) * 10 ^ 6⌋₊ = micros
  rw [hfraction, Nat.floor_natCast]

/-- What is written is a stamp. -/
theorem text_of_micros (seconds micros : ℕ) :
    (ofMicros seconds micros).text = toString seconds ++ "." ++ padded 6 micros := by
  apply String.toList_inj.1
  show (String.ofList _).toList = (String.ofList _ ++ "." ++ String.ofList _).toList
  simp only [String.toList_append, String.toList_ofList, List.append_assoc]
  rfl

end Stamp

/-- A timestamp in digits is read exactly. It is read if its second lies in the years that are kept,
and then its instant is the number that is written, cut off after whole microseconds. No number on
the way leaves its 32 or 64 bits. Instants follow each other as the numbers do, other spellings of
a number make no difference, and instants of whole microseconds are read as they are written. -/
theorem stamp_read_exactly :
    -- which timestamps are read
    (∀ stamp : Stamp, (∃ instant, instant? stamp.text = some instant) ↔
      natOf stamp.whole ≤ 8210266876799) ∧
    -- what they stand for
    (∀ (stamp : Stamp) (instant : Instant), instant? stamp.text = some instant →
      instant.seconds = natOf stamp.whole ∧
      instant.nanos = 1000 * ⌊fractionOf stamp.fraction * 10 ^ 6⌋₊ ∧ instant.nanos < 10 ^ 9 ∧
      instant.value ≤ stamp.value ∧ stamp.value < instant.value + 1 / 10 ^ 6) ∧
    -- the numbers on the way
    (∀ stamp : Stamp, ∃ micros : UInt32, micros? stamp.fraction = some micros ∧
      micros.toNat = ⌊fractionOf stamp.fraction * 10 ^ 6⌋₊ ∧
      (micros * 1000).toNat = micros.toNat * 1000) ∧
    (∀ (stamp : Stamp) (seconds : Int64), int64? stamp.whole = some seconds →
      seconds.toInt = natOf stamp.whole) ∧
    -- their order
    (∀ (first second : Stamp) (earlier later : Instant), first.value ≤ second.value →
      instant? first.text = some earlier → instant? second.text = some later →
      toLex (earlier.seconds, earlier.nanos) ≤ toLex (later.seconds, later.nanos)) ∧
    -- spellings of one number, such as with zeros before the seconds and behind the fraction
    (∀ first second : Stamp, first.value = second.value →
      instant? first.text = instant? second.text) ∧
    (∀ (stamp : Stamp) (before behind : ℕ),
      instant? (stamp.withZeros before behind).text = instant? stamp.text) ∧
    -- instants that are written
    (∀ seconds micros : ℕ, micros < 10 ^ 6 →
      instant? (toString seconds ++ "." ++ padded 6 micros) =
        if seconds ≤ 8210266876799 then some ⟨seconds, micros * 1000⟩ else none) := by
  refine ⟨Stamp.is_read_iff, fun stamp instant hinstant => ?_, fun stamp => ?_,
    fun stamp seconds hseconds => stamp.seconds_eq hseconds,
    fun first second earlier later hle hfirst hsecond => ?_,
    fun first second heq => Stamp.instant_of_value_eq heq, fun stamp before behind => ?_,
    fun seconds micros hmicros => ?_⟩
  · have hlt := stamp.micros_lt
    have hbounds := Stamp.value_bounds hinstant
    refine ⟨?_, ?_, ?_, hbounds⟩
    · rw [Stamp.eq_of_read hinstant]
    · rw [Stamp.eq_of_read hinstant]
      rfl
    · rw [Stamp.eq_of_read hinstant]
      show 1000 * stamp.micros < 10 ^ 9
      omega
  · have hlt := stamp.micros_lt
    have hmicros : (UInt32.ofNat stamp.micros).toNat = stamp.micros :=
      UInt32.toNat_ofNat_of_lt' (show stamp.micros < 4294967296 by omega)
    refine ⟨.ofNat stamp.micros, stamp.micros_eq, hmicros, ?_⟩
    rw [stamp.nanos_eq, hmicros, Nat.mul_comm]
  · rw [Stamp.eq_of_read hfirst, Stamp.eq_of_read hsecond, Prod.Lex.toLex_le_toLex]
    show (natOf first.whole : ℤ) < natOf second.whole ∨ (natOf first.whole : ℤ) =
      natOf second.whole ∧ 1000 * first.micros ≤ 1000 * second.micros
    have horder := Stamp.le_of_value_le hle
    omega
  · exact Stamp.instant_of_value_eq (stamp.value_with_zeros before behind)
  · have hwhole : natOf (Stamp.ofMicros seconds micros).whole = seconds := nat_of_to_digits seconds
    rw [← Stamp.text_of_micros, Stamp.instant_eq, Stamp.micros_of_micros seconds hmicros, hwhole,
      Nat.mul_comm]

-- What is cut off does not round the last second of the calendar up.
example : instant? "8210266876799.9999999" = some ⟨8210266876799, 999999000⟩ := by decide

end CatalogView.Slack
