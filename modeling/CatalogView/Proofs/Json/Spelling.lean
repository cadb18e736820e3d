import CatalogView.Proofs.Json.Token
import Mathlib.Data.List.Basic
import Mathlib.Data.List.TakeWhile

/-!
# Strings and numbers that are read

What is skipped as a string has the parts of one (`exists_parts_of_skip`), and what is skipped as a
number is spelt like one (`exists_numeral_of_skip`). What is read for what it stands for could be
skipped as well: the readers of strings and numbers refuse more and never get further
(`skip_of_string_from`, `skip_of_read_number`).
-/

namespace CatalogView.Json

open CatalogView.Text

variable {bytes rest : Bytes}

/-! ## Blanks -/

/-- What stands before anything that is no blank is a gap. -/
theorem exists_gap (bytes : Bytes) : ∃ gap : Gap, bytes = gap.bytes ++ skipBlanks bytes :=
  ⟨⟨bytes.takeWhile isBlank, fun _ hb => List.mem_takeWhile_imp hb⟩,
    List.takeWhile_append_dropWhile.symm⟩

/-- What stands before the next byte that is no blank is a gap. -/
theorem exists_gap_of_skip {next : Bytes} (h : skipBlanks bytes = next) :
    ∃ gap : Gap, bytes = gap.bytes ++ next :=
  h ▸ exists_gap bytes

/-- Blanks followed by blanks. -/
def Gap.append (first second : Gap) : Gap :=
  ⟨first.bytes ++ second.bytes, fun b hb =>
    (List.mem_append.1 hb).elim (first.blank b) (second.blank b)⟩

/-! ## Strings -/

/-- What has been skipped of the part of a string to which the next byte belongs. -/
def SkipPlace.front : SkipPlace → Bytes
  | .plain => []
  | .escape => [byte '\\']
  | .unit digits => byte '\\' :: byte 'u' :: digits.reverse

/-- What is skipped of a string are its parts. The digits of a code unit are no more than four. -/
theorem exists_parts_of_skip_from {place : SkipPlace}
    (hplace : ∀ digits, place = .unit digits → digits.length ≤ 3)
    (h : skipStringFrom place bytes = .ok rest) :
    ∃ parts, place.front ++ bytes = closedBytes parts ++ rest := by
  induction bytes generalizing place with
  | nil => cases h
  | cons b bytes ih =>
      cases place with
      | plain =>
          simp only [skipStringFrom] at h
          split_ifs at h with hquote hbackslash hcontrol
          · cases h
            exact ⟨[], by simp [SkipPlace.front, closedBytes, hquote]⟩
          · obtain ⟨parts, hparts⟩ := ih (by simp) h
            exact ⟨parts, by simpa [SkipPlace.front, hbackslash] using hparts⟩
          · obtain ⟨parts, hparts⟩ := ih (by simp) h
            have hplain : IsPlain b := by
              refine ⟨?_, fun he => hquote (UInt8.toNat_inj.1 he),
                fun he => hbackslash (UInt8.toNat_inj.1 he)⟩
              exact Nat.not_lt.1 fun hlt => hcontrol (UInt8.lt_iff_toNat_lt.2 hlt)
            refine ⟨.plain b hplain :: parts, ?_⟩
            rw [closed_bytes_cons, ← hparts]
            rfl
      | escape =>
          simp only [skipStringFrom] at h
          split_ifs at h with hunit hescape
          · obtain ⟨parts, hparts⟩ := ih (by simp) h
            exact ⟨parts, by simpa [SkipPlace.front, hunit] using hparts⟩
          · obtain ⟨parts, hparts⟩ := ih (by simp) h
            refine ⟨.escape b hescape :: parts, ?_⟩
            rw [closed_bytes_cons, ← hparts]
            rfl
      | unit digits =>
          simp only [skipStringFrom] at h
          split_ifs at h with hshort hunit
          · obtain ⟨parts, hparts⟩ := ih (by simpa using Nat.succ_le_of_lt hshort) h
            exact ⟨parts, by simpa [SkipPlace.front] using hparts⟩
          · obtain ⟨parts, hparts⟩ := ih (by simp) h
            have hlength : digits.length = 3 := by
              have hle := hplace digits rfl
              omega
            obtain ⟨c, b', a, rfl⟩ := List.length_eq_three.1 hlength
            refine ⟨.unit a b' c b hunit :: parts, ?_⟩
            rw [closed_bytes_cons, ← hparts]
            rfl

/-- A string that is skipped is one. -/
theorem exists_parts_of_skip (h : skipString bytes = .ok rest) :
    ∃ parts, bytes = closedBytes parts ++ rest :=
  @exists_parts_of_skip_from bytes rest .plain (by simp) h

/-- The place in a string where one that only skips it is. -/
def Place.skipped : Place → SkipPlace
  | .plain | .pair _ => .plain
  | .escape | .pairMark _ => .escape
  | .unit digits | .pairUnit _ digits => .unit digits

/-- What is read of a string can be skipped. -/
theorem skip_of_string_from {place : Place} {sofar : Bytes} {text : String}
    (h : stringFrom place sofar bytes = .ok (text, rest)) :
    skipStringFrom place.skipped bytes = .ok rest := by
  induction bytes generalizing place sofar with
  | nil => cases h
  | cons b bytes ih =>
      cases place with
      | plain =>
          simp only [stringFrom] at h
          simp only [Place.skipped, skipStringFrom]
          split_ifs at h ⊢ with hquote
          · split at h <;> cases h
            rfl
          · exact ih h
          · exact ih h
      | escape =>
          simp only [stringFrom] at h
          simp only [Place.skipped, skipStringFrom]
          split_ifs at h ⊢ with hunit hescape
          · exact ih h
          · split at h
            · exact ih h
            · cases h
          · split at h
            next c hc => simp [hc] at hescape
            next => cases h
      | unit digits =>
          simp only [stringFrom] at h
          simp only [Place.skipped, skipStringFrom]
          split_ifs at h ⊢ with hshort hunit
          · exact ih h
          · split at h
            · cases h
            · split_ifs at h <;> exact ih h
          · split at h
            next => cases h
            next unit hvalue => simp [hvalue] at hunit
      | pair leading =>
          simp only [stringFrom] at h
          have hne : byte '\\' ≠ byte '"' := by decide
          split_ifs at h with hbackslash
          subst hbackslash
          simp only [Place.skipped, skipStringFrom, if_neg hne, if_true]
          exact ih h
      | pairMark leading =>
          simp only [stringFrom] at h
          split_ifs at h with hunit
          simp only [Place.skipped, skipStringFrom, if_pos hunit]
          exact ih h
      | pairUnit leading digits =>
          simp only [stringFrom] at h
          simp only [Place.skipped, skipStringFrom]
          split_ifs at h ⊢ with hshort hunit
          · exact ih h
          · split at h
            · cases h
            · split_ifs at h
              exact ih h
          · split at h
            next => cases h
            next unit hvalue => simp [hvalue] at hunit

/-- A string that is read is one. -/
theorem exists_parts_of_read {text : String} (h : readString bytes = .ok (text, rest)) :
    ∃ parts, bytes = closedBytes parts ++ rest :=
  exists_parts_of_skip (skip_of_string_from h)

/-! ## Numbers -/

/-- A first digit goes on with all that follow it. -/
theorem exists_digits {b : UInt8} (h : isDigit b = true) (bytes : Bytes) :
    ∃ digits : Digits, digits.first = b ∧
      b :: bytes = digits.bytes ++ bytes.dropWhile isDigit :=
  ⟨⟨b, bytes.takeWhile isDigit, h, fun _ hd => List.mem_takeWhile_imp hd⟩, rfl, by
    simp [Digits.bytes, List.takeWhile_append_dropWhile]⟩

/-- Skips the digits of an exponent. -/
def skipPower : Bytes → Except Fault Bytes
  | [] => .error (flawAt [] .badNumber)
  | b :: rest =>
    if isDigit b then .ok (rest.dropWhile isDigit) else .error (flawAt rest .badNumber)

/-- A sign is skipped before the digits of an exponent, if there is one. -/
theorem skip_exponent_cons (b : UInt8) (bytes : Bytes) :
    skipExponent (b :: bytes) =
      skipPower (if b = byte '+' ∨ b = byte '-' then bytes else b :: bytes) := by
  simp only [skipExponent]
  generalize (if b = byte '+' ∨ b = byte '-' then bytes else b :: bytes) = behind
  cases behind <;> rfl

/-- An exponent that is skipped is one. -/
theorem exists_exponent_of_skip {mark : UInt8} (hmark : isExponentMark mark = true)
    (h : skipExponent bytes = .ok rest) :
    ∃ exponent : Exponent, mark :: bytes = exponent.bytes ++ rest := by
  have hpower : ∀ sign behind : Bytes, sign ∈ [[], [byte '+'], [byte '-']] →
      skipPower behind = .ok rest →
      ∃ exponent : Exponent, mark :: (sign ++ behind) = exponent.bytes ++ rest := by
    intro sign behind hsign hskip
    cases behind with
    | nil => cases hskip
    | cons b behind =>
        simp only [skipPower] at hskip
        split_ifs at hskip with hdigit
        cases hskip
        obtain ⟨digits, -, hdigits⟩ := exists_digits hdigit behind
        exact ⟨⟨mark, sign, digits, hmark, hsign⟩, by simp [Exponent.bytes, hdigits]⟩
  cases bytes with
  | nil => cases h
  | cons b bytes =>
      rw [skip_exponent_cons] at h
      split_ifs at h with hsign
      · rcases hsign with rfl | rfl
        · exact hpower [byte '+'] bytes (by simp) h
        · exact hpower [byte '-'] bytes (by simp) h
      · exact hpower [] (b :: bytes) (by simp) h

/-- What is skipped behind the digits of a number is an exponent, if it is anything. -/
theorem exists_scale_of_skip (h : skipScale bytes = .ok rest) :
    ∃ exponent? : Option Exponent, bytes = exponentBytes exponent? ++ rest := by
  cases bytes with
  | nil =>
      cases h
      exact ⟨none, rfl⟩
  | cons b bytes =>
      simp only [skipScale] at h
      split_ifs at h with hmark
      · obtain ⟨exponent, hexponent⟩ := exists_exponent_of_skip hmark h
        exact ⟨some exponent, hexponent⟩
      · cases h
        exact ⟨none, rfl⟩

/-- A fraction that is skipped is one, with an exponent perhaps. -/
theorem exists_fraction_of_skip (h : skipFraction bytes = .ok rest) :
    ∃ (digits : Digits) (exponent? : Option Exponent),
      bytes = digits.bytes ++ (exponentBytes exponent? ++ rest) := by
  simp only [skipFraction] at h
  split_ifs at h with hlength
  cases bytes with
  | nil => exact absurd rfl hlength
  | cons b bytes =>
      cases hdigit : isDigit b with
      | false => simp [hdigit] at hlength
      | true =>
          obtain ⟨digits, -, hdigits⟩ := exists_digits hdigit bytes
          rw [List.dropWhile_cons, if_pos hdigit] at h
          obtain ⟨exponent?, hexponent⟩ := exists_scale_of_skip h
          exact ⟨digits, exponent?, by rw [hdigits, hexponent]⟩

/-- What is skipped behind the whole digits of a number makes a numeral of them. -/
theorem exists_numeral_of_whole (isNegative : Bool) (whole : Digits) {behind : Bytes}
    (hzero : whole.first = byte '0' → whole.more = [])
    (h : (match behind with
      | [] => .ok []
      | c :: after =>
        if whole.first = byte '0' ∧ isDigit c then .error (flawPast behind .badNumber)
        else if c = byte '.' then skipFraction after
        else skipScale behind) = (.ok rest : Except Fault Bytes)) :
    ∃ numeral : Numeral, numeral.isNegative = isNegative ∧
      whole.bytes ++ behind = numeral.unsigned ++ rest := by
  cases behind with
  | nil =>
      cases h
      exact ⟨⟨isNegative, whole, none, none, hzero⟩, rfl, by
        simp [Numeral.unsigned, fractionBytes, exponentBytes]⟩
  | cons c after =>
      simp only at h
      split_ifs at h with hdigit hpoint
      · obtain ⟨digits, exponent?, hfraction⟩ := exists_fraction_of_skip h
        refine ⟨⟨isNegative, whole, some digits, exponent?, hzero⟩, rfl, ?_⟩
        simp [Numeral.unsigned, fractionBytes, hpoint, hfraction]
      · obtain ⟨exponent?, hexponent⟩ := exists_scale_of_skip h
        refine ⟨⟨isNegative, whole, none, exponent?, hzero⟩, rfl, ?_⟩
        simp [Numeral.unsigned, fractionBytes, hexponent]

/-- A number that is skipped is one. -/
theorem exists_numeral_of_skip (isNegative : Bool) (h : skipNumber bytes = .ok rest) :
    ∃ numeral : Numeral, numeral.isNegative = isNegative ∧ bytes = numeral.unsigned ++ rest := by
  cases bytes with
  | nil => cases h
  | cons b more =>
      simp only [skipNumber] at h
      split_ifs at h with hnot hzero
      · subst hzero
        have hnone : ∀ c ∈ ([] : Bytes), isDigit c = true := by simp
        exact exists_numeral_of_whole isNegative ⟨byte '0', [], rfl, hnone⟩ (fun _ => rfl) h
      · have hdigit : isDigit b = true := by simpa using hnot
        obtain ⟨digits, rfl, hdigits⟩ := exists_digits hdigit more
        rw [hdigits]
        exact exists_numeral_of_whole isNegative digits (fun he => absurd he hzero) h

/-- A number that was assembled is followed by what was behind it. -/
theorem rest_of_finish_real {negative : Bool} {significand : Nat} {exponent : Int}
    {number : Number} (h : finishReal negative significand exponent bytes = .ok (number, rest)) :
    rest = bytes := by
  unfold finishReal at h
  split at h <;> cases h
  rfl

/-- Reads an exponent from its digits. -/
def readPower (negative : Bool) (significand : Nat) (exponent : Int) (down : Bool) :
    Bytes → Except Fault (Number × Bytes)
  | [] => .error (flawAt [] .endOfValue)
  | b :: rest =>
    if isDigit b then
      match exponentFrom (digitValue b) (rest.takeWhile isDigit) with
      | (power, []) =>
        finishReal negative significand
          (saturate (if down then exponent - power else exponent + power)) (rest.dropWhile isDigit)
      | (_, _ :: unread) =>
        if significand ≠ 0 ∧ !down then
          .error (flawAt (unread ++ rest.dropWhile isDigit) .numberTooLarge)
        else finishReal negative 0 0 (rest.dropWhile isDigit)
    else .error (flawAt rest .badNumber)

/-- A sign is read before the digits of an exponent, if there is one. -/
theorem read_exponent_cons (negative : Bool) (significand : Nat) (exponent : Int) (b : UInt8)
    (bytes : Bytes) :
    readExponent negative significand exponent (b :: bytes) =
      readPower negative significand exponent (b = byte '-')
        (if b = byte '+' ∨ b = byte '-' then bytes else b :: bytes) := by
  have hne : byte '+' ≠ byte '-' := by decide
  by_cases hplus : b = byte '+'
  · subst hplus
    simp only [readExponent, if_true, true_or, hne, decide_false]
    cases bytes <;> rfl
  · by_cases hminus : b = byte '-'
    · subst hminus
      simp only [readExponent, if_neg hplus, if_true, or_true, decide_true]
      cases bytes <;> rfl
    · simp only [readExponent, hplus, hminus, or_false, if_false, decide_false]
      rfl

/-- An exponent that is read can be skipped. -/
theorem skip_of_read_exponent {negative : Bool} {significand : Nat} {exponent : Int}
    {number : Number} (h : readExponent negative significand exponent bytes = .ok (number, rest)) :
    skipExponent bytes = .ok rest := by
  cases bytes with
  | nil => cases h
  | cons b bytes =>
      rw [read_exponent_cons] at h
      rw [skip_exponent_cons]
      generalize (if b = byte '+' ∨ b = byte '-' then bytes else b :: bytes) = behind at h ⊢
      cases behind with
      | nil => cases h
      | cons d behind =>
          simp only [readPower] at h
          simp only [skipPower]
          by_cases hdigit : isDigit d
          · rw [if_pos hdigit] at h ⊢
            split at h
            · rw [rest_of_finish_real h]
            · split at h
              · cases h
              · rw [rest_of_finish_real h]
          · rw [if_neg hdigit] at h
            cases h

/-- What is read behind the digits of a number can be skipped. -/
theorem skip_of_read_scale {negative : Bool} {significand : Nat} {exponent : Int}
    {number : Number} (h : readScale negative significand exponent bytes = .ok (number, rest)) :
    skipScale bytes = .ok rest := by
  cases bytes with
  | nil => rw [rest_of_finish_real h]; rfl
  | cons b bytes =>
      simp only [readScale] at h
      simp only [skipScale]
      split_ifs at h ⊢
      · exact skip_of_read_exponent h
      · rw [rest_of_finish_real h]

/-- A fraction that is read can be skipped. -/
theorem skip_of_read_fraction {negative : Bool} {significand : Nat} {exponent : Int}
    {number : Number} (h : readFraction negative significand exponent bytes = .ok (number, rest)) :
    skipFraction bytes = .ok rest := by
  have hlength := congrArg List.length (List.takeWhile_append_dropWhile (p := isDigit) (l := bytes))
  rw [List.length_append] at hlength
  simp only [readFraction] at h
  split at h
  · cases h
  · cases h
  next htake =>
    simp only [skipFraction]
    rw [htake, List.length_cons] at hlength
    rw [if_neg (by omega)]
    exact skip_of_read_scale h

/-- Digits alone are followed by what was behind them. -/
theorem rest_of_whole_number {negative : Bool} {significand unread : Nat} {number : Number}
    (h : wholeNumber negative significand unread bytes = .ok (number, rest)) : rest = bytes := by
  unfold wholeNumber at h
  split_ifs at h
  · exact rest_of_finish_real h
  · cases h
    rfl
  · exact rest_of_finish_real h
  · cases h
    rfl

/-- A number that is read can be skipped. -/
theorem skip_of_read_number {negative : Bool} {number : Number}
    (h : readNumber negative bytes = .ok (number, rest)) : skipNumber bytes = .ok rest := by
  cases bytes with
  | nil => cases h
  | cons b more =>
      simp only [readNumber] at h
      simp only [skipNumber]
      generalize (if b = byte '0' then more else more.dropWhile isDigit) = behind at h ⊢
      generalize extend _ _ = digits at h
      by_cases hnot : (!isDigit b) = true
      · rw [if_pos hnot] at h
        cases h
      · rw [if_neg hnot] at h ⊢
        cases behind with
        | nil => rw [rest_of_whole_number h]
        | cons c after =>
            simp only at h ⊢
            split_ifs at h ⊢ with hzero hpoint hmark
            · exact skip_of_read_fraction h
            · simp only [skipScale, if_pos hmark]
              exact skip_of_read_exponent h
            · simp only [skipScale, if_neg hmark]
              rw [rest_of_whole_number h]

end CatalogView.Json
