import CatalogView.Proofs.Json.Skip

/-!
# What strings and numbers stand for

The text of a string comes from its parts and the count of a number from its digits, whatever stands
before and behind them (`read_text_parts`, `read_count_numeral`). A reader that refuses a value may
do so for many reasons. An `Issue` keeps of them only those that are about the fields of a record as
a whole, so it can be told from the value alone.
-/

namespace CatalogView.Json

open CatalogView.Text

/-! ## Issues -/

/-- Why a value is not of a shape: a field of a record is missing or repeated, or it is something
else. -/
inductive Issue where
  | missing (field : String)
  | repeated (field : String)
  | other
  deriving DecidableEq, Repr

/-- The issue of a mismatch. -/
def Mismatch.issue : Mismatch → Issue
  | .missingField field => .missing field
  | .repeatedField field => .repeated field
  | .wrongType _ _ | .countOutOfRange _ | .wrongLength _ _ _ => .other

/-- The issue of a fault. -/
def Fault.issue (fault : Fault) : Issue :=
  match fault.cause with
  | .flaw _ => .other
  | .mismatch mismatch => mismatch.issue

/-- What is left of a result when of its fault only the issue is kept. -/
def issues {α : Type} (result : Except Fault α) : Except Issue α :=
  result.mapError Fault.issue

/-- A value, if there is one. -/
def orOther {α : Type} : Option α → Except Issue α
  | some a => .ok a
  | none => .error .other

/-- A value with the rest of a document. -/
def withRest {α : Type} (rest : Bytes) (result : Except Issue α) : Except Issue (α × Bytes) :=
  result.map (·, rest)

section

variable {α β : Type}

@[simp] theorem issues_ok (a : α) : issues (.ok a : Except Fault α) = .ok a := rfl

@[simp] theorem issues_error (fault : Fault) :
    issues (.error fault : Except Fault α) = .error fault.issue := rfl

@[simp] theorem withRest_ok (rest : Bytes) (a : α) : withRest rest (.ok a) = .ok (a, rest) := rfl

@[simp] theorem withRest_error (rest : Bytes) (issue : Issue) :
    withRest rest (.error issue : Except Issue α) = .error issue := rfl

/-- The issue of steps one after the other is that of the first one that has one. -/
theorem issues_bind (result : Except Fault α) (next : α → Except Fault β) :
    issues (result >>= next) = issues result >>= fun a => issues (next a) := by
  cases result <;> rfl

/-- An issue is that of a fault. -/
theorem issues_eq_error_iff {result : Except Fault α} {issue : Issue} :
    issues result = .error issue ↔ ∃ fault, result = .error fault ∧ fault.issue = issue := by
  cases result <;> simp

/-- What follows a value gets it with the rest. -/
theorem withRest_bind (rest : Bytes) (result : Except Issue α)
    (next : α × Bytes → Except Issue β) :
    (withRest rest result >>= next) = result >>= fun a => next (a, rest) := by
  cases result <;> rfl

@[simp] theorem issue_flawAt (rest : Bytes) (flaw : Flaw) : (flawAt rest flaw).issue = .other := rfl

@[simp] theorem issue_flawPast (rest : Bytes) (flaw : Flaw) :
    (flawPast rest flaw).issue = .other := rfl

end

/-- What is read has a property, and what is not is neither missing nor repeated. -/
def Yields {α : Type} (property : α → Prop) (result : Except Fault α) : Prop :=
  (∃ a, result = .ok a ∧ property a) ∨ ∃ fault, result = .error fault ∧ fault.issue = .other

section

variable {α β : Type} {property other : α → Prop} {result : Except Fault α}

/-- A flaw is neither missing nor repeated. -/
theorem Yields.flawAt (rest : Bytes) (flaw : Flaw) :
    Yields property (.error (flawAt rest flaw)) := .inr ⟨_, rfl, rfl⟩

/-- A flaw is neither missing nor repeated. -/
theorem Yields.flawPast (rest : Bytes) (flaw : Flaw) :
    Yields property (.error (flawPast rest flaw)) := .inr ⟨_, rfl, rfl⟩

/-- What is read has every property that follows. -/
theorem Yields.imp (h : Yields property result) (himp : ∀ a, property a → other a) :
    Yields other result :=
  Or.imp (fun ⟨a, hok, ha⟩ => ⟨a, hok, himp a ha⟩) id h

/-- What is done next with what was read decides. -/
theorem Yields.issues_bind (h : Yields property result) {next : α → Except Fault β}
    (hnext : ∀ a, property a → issues (next a) = .error .other) :
    issues (result >>= next) = .error .other := by
  rcases h with ⟨a, rfl, ha⟩ | ⟨fault, rfl, hfault⟩
  · exact hnext a ha
  · rw [error_bind, issues_error, hfault]

end

/-! ## Texts -/

/-- The bytes that the parts of a string stand for. Code units must be characters, alone or in
pairs. -/
def textBytes? : List Part → Option Bytes
  | [] => some []
  | .plain b _ :: parts => (textBytes? parts).map (b :: ·)
  | .escape letter _ :: parts =>
    (escaped? letter).bind fun b => (textBytes? parts).map (b :: ·)
  | .unit a b c d _ :: parts =>
    (hexFour? [d, c, b, a]).bind fun unit =>
      if isTrailing unit then none
      else if isLeading unit then
        match parts with
        | .unit a b c d _ :: parts =>
          (hexFour? [d, c, b, a]).bind fun second =>
            if isTrailing second then
              (textBytes? parts).map (codeBytes (pairCode unit second) ++ ·)
            else none
        | _ => none
      else (textBytes? parts).map (codeBytes unit ++ ·)

/-- The text of a string. -/
def text? (parts : List Part) : Option String :=
  (textBytes? parts).bind fun bytes => (Utf8.decode? bytes).map String.ofList

/-- The text of what has been read of a string and of the parts that are left. -/
def textAfter? (sofar : Bytes) (parts : List Part) : Option String :=
  (textBytes? parts).bind fun bytes => (Utf8.decode? (sofar.reverse ++ bytes)).map String.ofList

/-- Bytes that parts stand for belong to what has been read. -/
theorem text_after_map (sofar front : Bytes) (parts : List Part) :
    (((textBytes? parts).map (front ++ ·)).bind fun bytes =>
        (Utf8.decode? (sofar.reverse ++ bytes)).map String.ofList) =
      textAfter? (front.reverse ++ sofar) parts := by
  cases hbytes : textBytes? parts <;> simp [textAfter?, hbytes]

/-- The first part of a string comes first. -/
theorem closed_bytes_cons (part : Part) (parts : List Part) (rest : Bytes) :
    closedBytes (part :: parts) ++ rest = part.bytes ++ (closedBytes parts ++ rest) := by
  simp [closedBytes]

/-- The first half of a pair is refused without a second one behind it. -/
theorem string_from_unpaired {parts : List Part}
    (h : ∀ a b c d isUnit more, parts ≠ .unit a b c d isUnit :: more) (unit : Nat)
    (sofar rest : Bytes) :
    issues (stringFrom (.pair unit) sofar (closedBytes parts ++ rest)) = .error .other := by
  have hquote : byte '"' ≠ byte '\\' := by decide
  cases parts with
  | nil => simp [closedBytes, stringFrom, hquote]
  | cons part parts =>
      rw [closed_bytes_cons]
      cases part with
      | plain b hplain =>
          have hbackslash : b ≠ byte '\\' := fun he => hplain.2.2 (by rw [he]; rfl)
          simp [Part.bytes, stringFrom, hbackslash]
      | escape letter hescape =>
          have hletter : letter ≠ byte 'u' := by
            rintro rfl
            exact absurd hescape (by decide)
          simp [Part.bytes, stringFrom, hletter]
      | unit a b c d hunit => exact absurd rfl (h a b c d hunit parts)

/-- The parts of a string are read up to its closing quote. -/
theorem string_from_parts (parts : List Part) (sofar rest : Bytes) :
    issues (stringFrom .plain sofar (closedBytes parts ++ rest)) =
      withRest rest (orOther (textAfter? sofar parts)) := by
  have hbackslash : byte '\\' ≠ byte '"' := by decide
  induction parts using textBytes?.induct generalizing sofar with
  | case1 =>
      cases htext : Utf8.decode? sofar.reverse <;>
        simp [closedBytes, stringFrom, textAfter?, textBytes?, htext, orOther]
  | case2 b hplain parts ih =>
      have htext : textAfter? sofar (.plain b hplain :: parts) = textAfter? (b :: sofar) parts :=
        text_after_map sofar [b] parts
      rw [closed_bytes_cons, htext, ← ih, Part.bytes, List.singleton_append,
        string_from_plain hplain]
  | case3 letter hescape parts ih =>
      obtain ⟨c, hc⟩ := Option.isSome_iff_exists.1 hescape
      have hletter : letter ≠ byte 'u' := by
        rintro rfl
        exact absurd hescape (by decide)
      have htext : textAfter? sofar (.escape letter hescape :: parts) =
          textAfter? (c :: sofar) parts := by
        have hmap := text_after_map sofar [c] parts
        simpa [textAfter?, textBytes?, hc] using hmap
      rw [closed_bytes_cons, htext, ← ih]
      simp [Part.bytes, stringFrom, hbackslash, hletter, hc]
  | case4 a b c d hunit parts ihpair ih =>
      obtain ⟨unit, hvalue⟩ := Option.isSome_iff_exists.1 hunit
      have hread : stringFrom .plain sofar (closedBytes (.unit a b c d hunit :: parts) ++ rest) =
          if isTrailing unit then
            .error (flawAt (closedBytes parts ++ rest) .loneSurrogate)
          else if isLeading unit then stringFrom (.pair unit) sofar (closedBytes parts ++ rest)
          else
            stringFrom .plain ((codeBytes unit).reverse ++ sofar) (closedBytes parts ++ rest) := by
        rw [closed_bytes_cons]
        simp [Part.bytes, stringFrom, hbackslash, hvalue]
      rw [hread]
      cases htrailing : isTrailing unit with
      | true => simp [textAfter?, textBytes?, hvalue, htrailing, orOther]
      | false =>
          cases hleading : isLeading unit with
          | false =>
              have htext : textAfter? sofar (.unit a b c d hunit :: parts) =
                  textAfter? ((codeBytes unit).reverse ++ sofar) parts := by
                rw [← text_after_map sofar (codeBytes unit) parts, textAfter?, textBytes?, hvalue]
                simp [htrailing, hleading]
              rw [htext, ← ih]
              simp
          | true =>
              rw [if_neg Bool.false_ne_true, if_pos rfl]
              by_cases hpair : ∃ a b c d isUnit more, parts = .unit a b c d isUnit :: more
              · obtain ⟨a', b', c', d', hunit', more, rfl⟩ := hpair
                obtain ⟨second, hsecond⟩ := Option.isSome_iff_exists.1 hunit'
                rw [closed_bytes_cons]
                cases htrailing' : isTrailing second with
                | false =>
                    simp [Part.bytes, stringFrom, hsecond, htrailing', textAfter?, textBytes?,
                      hvalue, htrailing, hleading, orOther]
                | true =>
                    have hmap := text_after_map sofar (codeBytes (pairCode unit second)) more
                    have htext : textAfter? sofar
                          (.unit a b c d hunit :: .unit a' b' c' d' hunit' :: more) =
                        textAfter? ((codeBytes (pairCode unit second)).reverse ++ sofar) more := by
                      rw [← hmap, textAfter?, textBytes?, hvalue]
                      simp [htrailing, hleading, hsecond, htrailing']
                    rw [htext, ← ihpair]
                    simp [Part.bytes, stringFrom, hsecond, htrailing']
              · have hnone : textBytes? (.unit a b c d hunit :: parts) = none := by
                  rw [textBytes?, hvalue, Option.bind_some, htrailing, hleading]
                  simp only [Bool.false_eq_true, if_false, if_true]
                  split
                  next a b c d isUnit more => exact absurd ⟨a, b, c, d, isUnit, more, rfl⟩ hpair
                  next => rfl
                rw [string_from_unpaired fun a b c d isUnit more he =>
                  hpair ⟨a, b, c, d, isUnit, more, he⟩]
                simp [textAfter?, hnone, orOther]

/-- A string is read from after its opening quote. -/
theorem read_string_parts (parts : List Part) (rest : Bytes) :
    issues (readString (closedBytes parts ++ rest)) = withRest rest (orOther (text? parts)) :=
  string_from_parts parts [] rest

/-! ## Numbers -/

/-- The number is an integer that is not negative. -/
def Number.isNatural : Number → Bool
  | .integer value => 0 ≤ value
  | .real _ => false

/-- A number that was assembled is real, and no natural number. -/
theorem finish_real_yields (negative : Bool) (significand : Nat) (exponent : Int) (rest : Bytes) :
    Yields (·.1.isNatural = false) (finishReal negative significand exponent rest) := by
  have hassemble : ∀ number, assemble negative significand exponent = some number →
      number.isNatural = false := by
    intro number hnumber
    simp only [assemble] at hnumber
    split_ifs at hnumber <;> cases hnumber <;> rfl
  unfold finishReal
  cases hnumber : assemble negative significand exponent with
  | none => exact .flawAt ..
  | some number => exact .inl ⟨_, rfl, hassemble number hnumber⟩

/-- A number with an exponent is no natural number. -/
theorem read_exponent_yields (negative : Bool) (significand : Nat) (exponent : Int)
    (bytes : Bytes) :
    Yields (·.1.isNatural = false) (readExponent negative significand exponent bytes) := by
  unfold readExponent
  simp only
  repeat' split
  all_goals first | exact .flawAt .. | exact finish_real_yields ..

/-- A number that may have an exponent is no natural number when it is real already. -/
theorem read_scale_yields (negative : Bool) (significand : Nat) (exponent : Int) (bytes : Bytes) :
    Yields (·.1.isNatural = false) (readScale negative significand exponent bytes) := by
  unfold readScale
  split
  · split
    · exact read_exponent_yields ..
    · exact finish_real_yields ..
  · exact finish_real_yields ..

/-- A number with a fraction is no natural number. -/
theorem read_fraction_yields (negative : Bool) (significand : Nat) (exponent : Int)
    (bytes : Bytes) :
    Yields (·.1.isNatural = false) (readFraction negative significand exponent bytes) := by
  unfold readFraction
  simp only
  split
  · exact .flawPast ..
  · exact .flawPast ..
  · exact read_scale_yields ..

/-- A number of digits alone is no natural number if it is negative. -/
theorem whole_number_yields (negative : Bool) (significand unread : Nat) (rest : Bytes) :
    Yields (fun number => negative = true → number.1.isNatural = false)
      (wholeNumber negative significand unread rest) := by
  unfold wholeNumber
  cases negative with
  | false =>
      split
      · exact (finish_real_yields ..).imp fun _ h _ => h
      · exact .inl ⟨_, rfl, nofun⟩
  | true =>
      split
      · exact (finish_real_yields ..).imp fun _ h _ => h
      · simp only [Bool.not_true, Bool.false_eq_true, if_false]
        split
        next => exact (finish_real_yields ..).imp fun _ h _ => h
        next hbound =>
          refine .inl ⟨_, rfl, fun _ => ?_⟩
          simp only [Number.isNatural, decide_eq_false_iff_not]
          omega

/-- What is read of a number is no natural number if it is negative, and nothing of it is missing or
repeated. -/
theorem read_number_yields (negative : Bool) (bytes : Bytes) :
    Yields (fun number => negative = true → number.1.isNatural = false)
      (readNumber negative bytes) := by
  have himp : ∀ result : Except Fault (Number × Bytes), Yields (·.1.isNatural = false) result →
      Yields (fun number => negative = true → number.1.isNatural = false) result :=
    fun _ h => h.imp fun _ h _ => h
  unfold readNumber
  cases bytes with
  | nil => exact .flawAt ..
  | cons b more =>
      simp only
      split
      case isTrue => exact .flawAt ..
      case isFalse =>
        split
        · exact whole_number_yields ..
        · split
          · exact .flawPast ..
          · split
            · exact himp _ (read_fraction_yields ..)
            · split
              · exact himp _ (read_exponent_yields ..)
              · exact whole_number_yields ..

/-- No count is a number that is no natural number. -/
theorem count_of_not_natural {number : Number} (h : number.isNatural = false) (rest : Bytes) :
    issues (countOf number rest) = .error .other := by
  cases number with
  | real value => rfl
  | integer value =>
      have hnegative : ¬ 0 ≤ value := by simpa [Number.isNatural] using h
      simp only [countOf, hnegative, false_and, if_false]
      rfl

/-- The count that a number stands for, if it is a natural number of 32 bits without a fraction and
an exponent. -/
def count? (numeral : Numeral) : Option UInt32 :=
  if numeral.isNegative || numeral.fraction?.isSome || numeral.exponent?.isSome then none
  else if numeral.whole.value < Nat.pow 2 32 then some (UInt32.ofNat numeral.whole.value)
  else none

/-- Not all digits of a number that is too large are read. -/
theorem extend_unread {digits : Bytes} {significand : Nat}
    (hsignificand : significand ≤ maxSignificand)
    (hvalue : maxSignificand <
      digits.foldl (fun sofar d => sofar * 10 + digitValue d) significand) :
    (extend significand digits).2 ≠ 0 := by
  induction digits generalizing significand with
  | nil => exact absurd hsignificand (Nat.not_le.2 hvalue)
  | cons d digits ih =>
      rw [extend]
      split
      case isTrue hnext => exact ih hnext hvalue
      case isFalse => exact Nat.succ_ne_zero _

/-- A number without a fraction and an exponent is a count if it is small enough. -/
theorem count_of_whole (digits : Digits) (rest : Bytes) :
    issues (wholeNumber false (extend (digitValue digits.first) digits.more).1
        (extend (digitValue digits.first) digits.more).2 rest >>=
          fun number => countOf number.1 number.2) =
      withRest rest (orOther
        (if digits.value < Nat.pow 2 32 then some (UInt32.ofNat digits.value) else none)) := by
  rcases Nat.lt_or_ge maxSignificand digits.value with hlarge | hsmall
  · have hfirst : digitValue digits.first ≤ maxSignificand := by
      have hbyte : digits.first.toNat < 256 := digits.first.toNat_lt
      have hmax : 256 ≤ maxSignificand := by decide
      unfold digitValue
      omega
    have hunread := extend_unread hfirst hlarge
    have hcount : ¬ digits.value < Nat.pow 2 32 :=
      Nat.not_lt.2 (Nat.le_trans (by decide) (Nat.le_of_lt hlarge))
    rw [if_neg hcount, wholeNumber, if_pos hunread]
    exact (finish_real_yields ..).issues_bind fun number h => count_of_not_natural h number.2
  · rw [extend_eq_foldl (n := digits.value) rfl hsmall]
    simp only [wholeNumber, ne_eq, not_true_eq_false, if_false, Bool.not_false, if_true, ok_bind,
      countOf, Int.natCast_nonneg, true_and, Int.toNat_natCast]
    by_cases hcount : digits.value < Nat.pow 2 32
    · have hlt : (digits.value : Int) < Int.pow 2 32 := Int.ofNat_lt.2 hcount
      rw [if_pos hlt, if_pos hcount]
      rfl
    · have hnlt : ¬ (digits.value : Int) < Int.pow 2 32 := fun h => hcount (Int.ofNat_lt.1 h)
      rw [if_neg hnlt, if_neg hcount]
      rfl

/-- A number is read as the count that it stands for. -/
theorem read_count_numeral (numeral : Numeral) (gap : Gap) {rest : Bytes}
    (hrest : EndsNumber rest) :
    issues (readCount (gap.bytes ++ (numeral.bytes ++ rest))) =
      withRest rest (orOther (count? numeral)) := by
  obtain ⟨isNegative, ⟨first, more, hdigit, hdigits⟩, fraction?, exponent?, hzero⟩ := numeral
  cases isNegative with
  | true =>
      have hminus : isBlank (byte '-') = false := rfl
      simp only [Numeral.bytes, if_true, List.cons_append, readCount,
        skip_blanks_gap_cons gap hminus, count?, Bool.true_or]
      exact (read_number_yields true _).issues_bind fun number h =>
        count_of_not_natural (h rfl) number.2
  | false =>
      have hminus : first ≠ byte '-' := ne_of_digit hdigit rfl
      have hends := ends_digits_fraction fraction? exponent? hrest
      simp only [Numeral.bytes, Bool.false_eq_true, if_false, Numeral.unsigned, Digits.bytes,
        List.cons_append, List.append_assoc, readCount,
        skip_blanks_gap_cons gap (not_blank_of_digit hdigit), if_neg hminus, hdigit, if_true,
        count?, Bool.false_or]
      rw [read_number_digits hdigit hdigits hzero hends]
      cases fraction? with
      | some digits =>
          simp only [fractionBytes, List.cons_append, if_true, Option.isSome_some, Bool.true_or]
          exact (read_fraction_yields ..).issues_bind fun number h =>
            count_of_not_natural h number.2
      | none =>
          cases exponent? with
          | some exponent =>
              have hpoint := (not_digit_of_mark exponent.isMark).2
              simp only [fractionBytes, exponentBytes, Exponent.bytes, List.nil_append,
                List.cons_append, if_neg hpoint, exponent.isMark, if_true, Option.isSome_some,
                Bool.or_true]
              exact (read_exponent_yields ..).issues_bind fun number h =>
                count_of_not_natural h number.2
          | none =>
              have hwhole := count_of_whole ⟨first, more, hdigit, hdigits⟩ rest
              cases rest with
              | nil => exact hwhole
              | cons c after =>
                  obtain ⟨-, hpoint, hmark⟩ := hrest c (by simp)
                  simpa [fractionBytes, exponentBytes, hpoint, hmark] using hwhole

/-! ## Values of the wrong type -/

/-- What is no literal has a flaw. -/
theorem literal_yields (expected bytes : Bytes) :
    Yields (fun _ => True) (literal expected bytes) := by
  fun_induction literal expected bytes with
  | case1 rest => exact .inl ⟨rest, rfl, trivial⟩
  | case2 => exact .flawAt ..
  | case3 more b rest ih => exact ih
  | case4 => exact .flawAt ..

/-- What is no string has a flaw. -/
theorem string_from_yields (place : Place) (sofar bytes : Bytes) :
    Yields (fun _ => True) (stringFrom place sofar bytes) := by
  fun_induction stringFrom place sofar bytes
  all_goals first | assumption | exact .flawAt .. | exact .inl ⟨_, rfl, trivial⟩

/-- A value that is refused is of the wrong type or has a flaw. -/
theorem refuse_issues {α : Type} (wanted : Wanted) (b : UInt8) (rest : Bytes) :
    issues (refuse wanted b rest : Except Fault α) = .error .other := by
  have hliteral : ∀ (expected : Bytes) (found : Found),
      issues (literal expected rest >>= fun rest =>
        (.error ⟨.mismatch (.wrongType found wanted), rest.length⟩ : Except Fault α)) =
          .error .other :=
    fun expected found => (literal_yields expected rest).issues_bind fun _ _ => rfl
  have hnumber : ∀ (negative : Bool) (bytes : Bytes),
      issues (readNumber negative bytes >>= fun number =>
        (.error ⟨.mismatch (.wrongType number.1.found wanted), number.2.length⟩ :
          Except Fault α)) = .error .other :=
    fun negative bytes => (read_number_yields negative bytes).issues_bind fun _ _ => rfl
  have htext : issues (readString rest >>= fun text =>
        (.error ⟨.mismatch (.wrongType (.text text.1) wanted), text.2.length⟩ :
          Except Fault α)) = .error .other :=
    (string_from_yields .plain [] rest).issues_bind fun _ _ => rfl
  unfold refuse
  simp only
  split_ifs
  · exact hliteral ..
  · exact hliteral ..
  · exact hliteral ..
  · exact hnumber ..
  · exact hnumber ..
  · exact htext
  all_goals rfl

end CatalogView.Json
