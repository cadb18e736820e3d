import CatalogView.Proofs.Slack.Timestamp
import CatalogView.View.Conversations

/-!
# Timestamps that are no numbers

A timestamp should be a decimal numeral, and its instant the number that is written. `Numeral` is
what may be written, with a sign or without one. `instant_eq_some_iff` says of every text whether it
is read and as what, and so where a timestamp is read that is none: the part behind the point is
looked at up to six places only, a plus sign may stand there, and it is counted onward in time even
if the seconds before it are counted back. `read_truly_iff` says that nothing else goes wrong.
-/

namespace CatalogView.Slack

open CatalogView.Text CatalogView.Time

/-! ## What is read -/

/-- Six places are read as the number of their digits, behind a plus sign or not. -/
theorem unsigned_cut_iff {fraction : List Char} {micros : ℕ} :
    unsigned? (cutAt 6 fraction) = some micros ↔
      ∃ digits, (∀ c ∈ digits, isDigit c = true) ∧
        (cutAt 6 fraction = digits ∨ cutAt 6 fraction = '+' :: digits) ∧
        natOf digits = micros := by
  have hlength := length_cut_at 6 fraction
  rw [unsigned_eq_some_iff]
  constructor
  · rintro ⟨digits, hcut, hread⟩
    obtain ⟨-, hdigits, hmicros⟩ := nat_eq_some_iff.1 hread
    exact ⟨digits, hdigits, hcut, hmicros⟩
  · rintro ⟨digits, hdigits, hcut, hmicros⟩
    have hne : digits ≠ [] := by
      rintro rfl
      rcases hcut with hcut | hcut <;> rw [hcut] at hlength <;> cases hlength
    exact ⟨digits, hcut, nat_eq_some_iff.2 ⟨hne, hdigits, hmicros⟩⟩

/-- Six places hold less than a million microseconds. -/
theorem unsigned_cut_lt {fraction : List Char} {micros : ℕ}
    (h : unsigned? (cutAt 6 fraction) = some micros) : micros < 10 ^ 6 := by
  obtain ⟨digits, hdigits, hcut, rfl⟩ := unsigned_cut_iff.1 h
  have hlength : digits.length ≤ 6 := by
    have hcutLength := length_cut_at 6 fraction
    rcases hcut with hcut | hcut
    · rw [hcut] at hcutLength
      omega
    · rw [hcut, List.length_cons] at hcutLength
      omega
  calc natOf digits < 10 ^ digits.length := nat_of_lt hdigits
    _ ≤ 10 ^ 6 := Nat.pow_le_pow_right (by decide) hlength

/-- Seconds and less than a million microseconds make an instant in the years that are kept. -/
theorem of_parts_eq_some_iff {seconds : Int64} {micros : UInt32} {instant : Instant}
    (hmicros : micros.toNat < 10 ^ 6) :
    Instant.ofParts? seconds (micros * 1000) = some instant ↔
      (Instant.minSeconds ≤ seconds.toInt ∧ seconds.toInt ≤ Instant.maxSeconds) ∧
        ⟨seconds.toInt, 1000 * micros.toNat⟩ = instant := by
  have hnanos : (micros * 1000).toNat = 1000 * micros.toNat := by
    rw [UInt32.toNat_mul]
    show micros.toNat * 1000 % 4294967296 = 1000 * micros.toNat
    omega
  have hsecond : (micros * 1000).toNat < 1000000000 := by omega
  unfold Instant.ofParts?
  rw [hnanos] at hsecond ⊢
  simp only [hsecond, true_or, and_true, Option.ite_none_right_eq_some, Option.some.injEq]

/-- A timestamp is read as the seconds before its first point and the microseconds in the six places
behind it, if there are numbers in both and the calendar has the second. -/
theorem instant_eq_some_iff {timestamp : String} {instant : Instant} :
    instant? timestamp = some instant ↔
      ∃ (seconds : ℤ) (micros : ℕ),
        signed? (splitTimestamp timestamp.toList).1 = some seconds ∧
        unsigned? (cutAt 6 (splitTimestamp timestamp.toList).2) = some micros ∧
        (Instant.minSeconds ≤ seconds ∧ seconds ≤ Instant.maxSeconds) ∧
        ⟨seconds, 1000 * micros⟩ = instant := by
  unfold instant?
  simp only [Option.bind_eq_bind, Option.bind_eq_some_iff, micros_eq_cut, int64_eq_some_iff,
    uint32_eq_some_iff]
  constructor
  · rintro ⟨seconds, hseconds, micros, hmicros, hparts⟩
    rw [of_parts_eq_some_iff (unsigned_cut_lt hmicros)] at hparts
    exact ⟨seconds.toInt, micros.toNat, hseconds, hmicros, hparts⟩
  · rintro ⟨seconds, micros, hseconds, hmicros, hrange, hinstant⟩
    have hlt := unsigned_cut_lt hmicros
    -- the words that hold the numbers
    have hword : (Int64.ofInt seconds).toInt = seconds := by
      obtain ⟨hmin, hmax⟩ := hrange
      unfold Instant.minSeconds at hmin
      unfold Instant.maxSeconds at hmax
      exact Int64.toInt_ofInt_of_le (by omega) (by omega)
    have hmicrosWord : (UInt32.ofNat micros).toNat = micros :=
      UInt32.toNat_ofNat_of_lt' (show micros < 4294967296 by omega)
    refine ⟨.ofInt seconds, hword.symm ▸ hseconds, .ofNat micros, hmicrosWord.symm ▸ hmicros, ?_⟩
    rw [of_parts_eq_some_iff (hmicrosWord.symm ▸ hlt), hword, hmicrosWord]
    exact ⟨hrange, hinstant⟩

/-! ## Numerals -/

/-- A decimal numeral: a sign or none, digits, and perhaps a point with digits behind it. -/
structure Numeral where
  sign? : Option Sign
  stamp : Stamp

namespace Numeral

/-- The numeral as it is written. -/
def text (numeral : Numeral) : String :=
  .ofList (Sign.chars numeral.sign? ++ numeral.stamp.text.toList)

/-- The number that is written. -/
def value (numeral : Numeral) : ℚ :=
  Sign.factor numeral.sign? * numeral.stamp.value

/-- A numeral is split at its point. -/
theorem split_text (numeral : Numeral) :
    splitTimestamp numeral.text.toList =
      (Sign.chars numeral.sign? ++ numeral.stamp.whole, numeral.stamp.fraction) := by
  have hsign : '.' ∉ Sign.chars numeral.sign? := by
    rcases numeral.sign? with _ | _ | _ <;> decide
  rw [text, String.toList_ofList, split_append hsign, numeral.stamp.split_text]

/-- A numeral whose second the calendar has is read as its seconds with their sign, and its
microseconds without it. -/
theorem instant_eq_some_iff (numeral : Numeral) {instant : Instant} :
    instant? numeral.text = some instant ↔
      (Instant.minSeconds ≤ Sign.factor numeral.sign? * natOf numeral.stamp.whole ∧
        Sign.factor numeral.sign? * natOf numeral.stamp.whole ≤ Instant.maxSeconds) ∧
      ⟨Sign.factor numeral.sign? * natOf numeral.stamp.whole, 1000 * numeral.stamp.micros⟩ =
        instant := by
  have hseconds : signed? (Sign.chars numeral.sign? ++ numeral.stamp.whole) =
      some (Sign.factor numeral.sign? * natOf numeral.stamp.whole) :=
    signed_eq_some_iff.2 ⟨numeral.sign?, numeral.stamp.whole, natOf numeral.stamp.whole, rfl,
      nat_of_digits numeral.stamp.whole_digits numeral.stamp.whole_ne_nil, rfl⟩
  have hmicros : unsigned? (cutAt 6 numeral.stamp.fraction) = some numeral.stamp.micros := by
    have hne : cutAt 6 numeral.stamp.fraction ≠ [] :=
      List.ne_nil_of_length_eq_add_one (length_cut_at 6 _)
    have hdigits : ∀ c ∈ numeral.stamp.fraction, isDigit c = true :=
      numeral.stamp.fraction_digits
    rw [unsigned_of_digits (digits_cut_at 6 hdigits) hne]
    exact congrArg some (nat_of_cut_at 6 hdigits)
  rw [Slack.instant_eq_some_iff, numeral.split_text, hseconds, hmicros]
  constructor
  · rintro ⟨seconds, micros, hfirst, hsecond, h⟩
    cases hfirst
    cases hsecond
    exact h
  · intro h
    exact ⟨_, _, rfl, rfl, h⟩

/-- An instant is the number of its numeral up to a microsecond, unless the number is counted back
and there are microseconds, which are not. -/
theorem distance_lt_iff {numeral : Numeral} {instant : Instant}
    (h : instant? numeral.text = some instant) :
    |instant.value - numeral.value| < 1 / 10 ^ 6 ↔
      (numeral.sign? = some .minus → numeral.stamp.micros = 0) := by
  obtain ⟨-, rfl⟩ := numeral.instant_eq_some_iff.1 h
  have hnonneg : 0 ≤ fractionOf numeral.stamp.fraction * 10 ^ 6 :=
    mul_nonneg (fraction_nonneg _) (by positivity)
  have hlow : (numeral.stamp.micros : ℚ) ≤ fractionOf numeral.stamp.fraction * 10 ^ 6 :=
    Nat.floor_le hnonneg
  have hhigh : fractionOf numeral.stamp.fraction * 10 ^ 6 < numeral.stamp.micros + 1 :=
    Nat.lt_floor_add_one _
  have honward : numeral.sign? ≠ some .minus → Sign.factor numeral.sign? = 1 := by
    rcases numeral.sign? with _ | _ | _
    · exact fun _ => rfl
    · exact fun _ => rfl
    · exact fun hminus => absurd rfl hminus
  unfold Instant.value value Stamp.value
  rw [abs_lt]
  push_cast
  by_cases hminus : numeral.sign? = some .minus
  · rw [hminus, show Sign.factor (some .minus) = -1 from rfl]
    push_cast
    constructor
    · -- the fraction is added where it should be taken away, so twice of it is too much
      rintro ⟨-, hlt⟩ -
      have hfew : (numeral.stamp.micros : ℚ) < 1 := by linarith
      exact Nat.lt_one_iff.1 (by exact_mod_cast hfew)
    · intro hzero
      rw [hzero rfl] at hlow hhigh ⊢
      push_cast at hlow hhigh ⊢
      constructor
      · linarith
      · linarith
  · rw [honward hminus]
    push_cast
    refine iff_of_true ⟨?_, ?_⟩ fun h => absurd h hminus
    · linarith
    · linarith

end Numeral

/-! ## Timestamps that are numerals -/

/-- A text is put together again from its parts. -/
theorem eq_of_split (text : List Char) :
    (text = (splitTimestamp text).1 ∧ (splitTimestamp text).2 = []) ∨
      text = (splitTimestamp text).1 ++ '.' :: (splitTimestamp text).2 := by
  induction text with
  | nil => exact .inl ⟨rfl, rfl⟩
  | cons c text ih =>
      by_cases hc : c = '.'
      · exact .inr (by simp [splitTimestamp, hc])
      · simpa [splitTimestamp, hc] using ih

/-- A timestamp that is read is a numeral if there are digits behind its first point and nothing
else. -/
theorem exists_numeral_iff {timestamp : String} {instant : Instant}
    (h : instant? timestamp = some instant) :
    (∃ numeral : Numeral, numeral.text = timestamp) ↔
      ∀ c ∈ (splitTimestamp timestamp.toList).2, isDigit c = true := by
  constructor
  · rintro ⟨numeral, rfl⟩
    rw [numeral.split_text]
    exact numeral.stamp.fraction_digits
  · intro hfraction
    obtain ⟨_, _, hseconds, -⟩ := instant_eq_some_iff.1 h
    obtain ⟨sign?, digits, _, hwhole, hread, -⟩ := signed_eq_some_iff.1 hseconds
    obtain ⟨hne, hdigits, -⟩ := nat_eq_some_iff.1 hread
    rcases eq_of_split timestamp.toList with ⟨htext, -⟩ | htext
    · refine ⟨⟨sign?, ⟨digits, none, hne, hdigits, List.forall_mem_nil _⟩⟩, ?_⟩
      apply String.toList_inj.1
      rw [Numeral.text, Stamp.text, String.toList_ofList, String.toList_ofList, ← hwhole, ← htext]
    · refine ⟨⟨sign?, ⟨digits, some _, hne, hdigits, hfraction⟩⟩, ?_⟩
      apply String.toList_inj.1
      rw [Numeral.text, Stamp.text, String.toList_ofList, String.toList_ofList, ← List.append_assoc,
        ← hwhole, ← htext]

/-- What keeps a timestamp that is read from being misread. -/
structure IsFaithful (timestamp : String) : Prop where
  /-- There is nothing but digits behind the point. -/
  digits : ∀ c ∈ (splitTimestamp timestamp.toList).2, isDigit c = true
  /-- Seconds that are counted back have no microseconds. -/
  onward : (splitTimestamp timestamp.toList).1.head? = some '-' →
    ∀ c ∈ (splitTimestamp timestamp.toList).2.take 6, c = '0'

namespace Numeral

/-- The first character of a numeral tells whether it is counted back. -/
theorem head_eq_minus_iff (numeral : Numeral) :
    (Sign.chars numeral.sign? ++ numeral.stamp.whole).head? = some '-' ↔
      numeral.sign? = some .minus := by
  rcases numeral with ⟨_ | _ | _, stamp⟩
  · -- without a sign a digit comes first
    refine iff_of_false (fun hhead => ?_) nofun
    exact absurd (stamp.whole_digits '-' (List.mem_of_mem_head? hhead)) (by decide)
  · exact iff_of_false nofun nofun
  · exact iff_of_true rfl rfl

/-- A numeral has no microseconds if there are zeros in their places. -/
theorem micros_eq_zero_iff (stamp : Stamp) :
    stamp.micros = 0 ↔ ∀ c ∈ stamp.fraction.take 6, c = '0' := by
  have hdigits : ∀ c ∈ stamp.fraction, isDigit c = true := stamp.fraction_digits
  have hcut : natOf (cutAt 6 stamp.fraction) = stamp.micros := nat_of_cut_at 6 hdigits
  rw [← hcut, nat_of_eq_zero_iff (digits_cut_at 6 hdigits), cutAt, List.forall_mem_append]
  exact and_iff_left fun c => List.eq_of_mem_replicate

/-- A numeral is faithful if it is counted onward or has no microseconds. -/
theorem faithful_iff (numeral : Numeral) :
    IsFaithful numeral.text ↔ (numeral.sign? = some .minus → numeral.stamp.micros = 0) := by
  rw [micros_eq_zero_iff, ← numeral.head_eq_minus_iff]
  constructor
  · rintro ⟨-, honward⟩
    rwa [numeral.split_text] at honward
  · intro honward
    constructor
    · rw [numeral.split_text]
      exact numeral.stamp.fraction_digits
    · rwa [numeral.split_text]

end Numeral

/-- A timestamp is read if there is a number with at most one sign before its first point, as many
seconds as the calendar has, and digits in the six places behind it, the first of which may be a
plus sign. It is a numeral, and the instant the number that is written up to a microsecond, if and
only if there are digits behind the point in all places and no microseconds are counted back. Other
timestamps are shown as they are. -/
theorem read_truly_iff (timestamp : String) :
    -- what is read
    (∀ instant, instant? timestamp = some instant ↔
      ∃ (sign? : Option Sign) (seconds micros : List Char),
        (seconds ≠ [] ∧ (∀ c ∈ seconds, isDigit c = true) ∧
          (splitTimestamp timestamp.toList).1 = Sign.chars sign? ++ seconds) ∧
        ((∀ c ∈ micros, isDigit c = true) ∧
          (cutAt 6 (splitTimestamp timestamp.toList).2 = micros ∨
            cutAt 6 (splitTimestamp timestamp.toList).2 = '+' :: micros)) ∧
        (-8334601228800 ≤ Sign.factor sign? * natOf seconds ∧
          Sign.factor sign? * natOf seconds ≤ 8210266876799) ∧
        ⟨Sign.factor sign? * natOf seconds, 1000 * natOf micros⟩ = instant) ∧
    -- what of it is right
    (∀ instant, instant? timestamp = some instant →
      ((∃ numeral : Numeral, numeral.text = timestamp ∧
        |instant.value - numeral.value| < 1 / 10 ^ 6) ↔ IsFaithful timestamp)) ∧
    -- what is shown
    (∀ conversation : Conversation, conversation.message.threadTime = timestamp →
      View.threadTime conversation = ((instant? timestamp).map Instant.show).getD timestamp) := by
  refine ⟨fun instant => ?_, fun instant hinstant => ?_, fun conversation htime => ?_⟩
  · rw [instant_eq_some_iff]
    constructor
    · rintro ⟨_, _, hseconds, hmicros, hrange, rfl⟩
      obtain ⟨sign?, seconds, _, hwhole, hread, rfl⟩ := signed_eq_some_iff.1 hseconds
      obtain ⟨hne, hdigits, rfl⟩ := nat_eq_some_iff.1 hread
      obtain ⟨micros, hmicrosDigits, hcut, rfl⟩ := unsigned_cut_iff.1 hmicros
      exact ⟨sign?, seconds, micros, ⟨hne, hdigits, hwhole⟩, ⟨hmicrosDigits, hcut⟩, hrange, rfl⟩
    · rintro ⟨sign?, seconds, micros, ⟨hne, hdigits, hwhole⟩, ⟨hmicrosDigits, hcut⟩, hrange, rfl⟩
      exact ⟨_, _, signed_eq_some_iff.2 ⟨sign?, seconds, _, hwhole, nat_of_digits hdigits hne, rfl⟩,
        unsigned_cut_iff.2 ⟨micros, hmicrosDigits, hcut, rfl⟩, hrange, rfl⟩
  · constructor
    · rintro ⟨numeral, rfl, hdistance⟩
      exact numeral.faithful_iff.2 ((Numeral.distance_lt_iff hinstant).1 hdistance)
    · intro hfaithful
      obtain ⟨numeral, rfl⟩ := (exists_numeral_iff hinstant).2 hfaithful.digits
      exact ⟨numeral, rfl,
        (Numeral.distance_lt_iff hinstant).2 (numeral.faithful_iff.1 hfaithful)⟩
  · rw [View.threadTime, Conversation.instant?, htime]
    cases instant? timestamp with
    | none => rfl
    | some instant => rfl

/-- Behind the sixth place anything is read over, a sign is taken behind the point, and a second and
a half before 1970 is read as half a second before it. -/
theorem odd_timestamps_read :
    (instant? "5.123456x" = some ⟨5, 123456000⟩ ∧
      ∀ numeral : Numeral, numeral.text ≠ "5.123456x") ∧
    (instant? "5.+12345" = some ⟨5, 12345000⟩ ∧
      ∀ numeral : Numeral, numeral.text ≠ "5.+12345") ∧
    (instant? "-1.5" = some ⟨-1, 500000000⟩ ∧ ∀ numeral : Numeral, numeral.text = "-1.5" →
      ¬ |(⟨-1, 500000000⟩ : Instant).value - numeral.value| < 1 / 10 ^ 6) := by
  have htail : instant? "5.123456x" = some ⟨5, 123456000⟩ := by decide
  have hplus : instant? "5.+12345" = some ⟨5, 12345000⟩ := by decide
  have hminus : instant? "-1.5" = some ⟨-1, 500000000⟩ := by decide
  refine ⟨⟨htail, fun numeral htext => ?_⟩, ⟨hplus, fun numeral htext => ?_⟩,
    hminus, fun numeral htext hdistance => ?_⟩
  · have hletter : 'x' ∈ (splitTimestamp "5.123456x".toList).2 := by decide
    exact absurd ((exists_numeral_iff htail).1 ⟨numeral, htext⟩ 'x' hletter) (by decide)
  · have hsign : '+' ∈ (splitTimestamp "5.+12345".toList).2 := by decide
    exact absurd ((exists_numeral_iff hplus).1 ⟨numeral, htext⟩ '+' hsign) (by decide)
  · rw [← htext] at hminus
    have hfaithful : IsFaithful "-1.5" :=
      htext ▸ numeral.faithful_iff.2 ((Numeral.distance_lt_iff hminus).1 hdistance)
    have hdigit : '5' ∈ (splitTimestamp "-1.5".toList).2.take 6 := by decide
    exact absurd (hfaithful.onward rfl '5' hdigit) (by decide)

end CatalogView.Slack
