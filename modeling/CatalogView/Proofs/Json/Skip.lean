import CatalogView.Proofs.Json.Tree
import Mathlib.Tactic.SplitIfs

/-!
# Skipped values

A value of which only the extent matters is skipped up to its end, however deep its brackets are,
however large its numbers and whatever its strings stand for (`skip_value_tree`). The open brackets
are kept on a list, so a value within brackets is skipped as it is by itself, and the steps that
this takes are no more than twice its bytes.
-/

namespace CatalogView.Json

open CatalogView.Text

variable {rest : Bytes}

/-! ## Numbers -/

/-- The mark of an exponent is no digit and no point. -/
theorem not_digit_of_mark {b : UInt8} (h : isExponentMark b = true) :
    isDigit b = false ∧ b ≠ byte '.' := by
  simp only [isExponentMark, Bool.or_eq_true, beq_iff_eq] at h
  rcases h with rfl | rfl <;> decide

/-- An exponent goes on with no digits. -/
theorem ends_digits_exponent (exponent? : Option Exponent) (h : EndsNumber rest) :
    EndsDigits (exponentBytes exponent? ++ rest) := by
  cases exponent? with
  | none => exact h.digits
  | some exponent =>
      intro b hb
      obtain rfl : exponent.mark = b := by
        simpa [exponentBytes, Exponent.bytes] using hb
      exact (not_digit_of_mark exponent.isMark).1

/-- A fraction goes on with no digits. -/
theorem ends_digits_fraction (fraction? : Option Digits) (exponent? : Option Exponent)
    (h : EndsNumber rest) :
    EndsDigits (fractionBytes fraction? ++ (exponentBytes exponent? ++ rest)) := by
  cases fraction? with
  | none => exact ends_digits_exponent exponent? h
  | some digits =>
      intro b hb
      obtain rfl : byte '.' = b := by simpa [fractionBytes] using hb
      rfl

/-- A sign is no digit, and what is no sign is taken for the first digit. -/
theorem skip_exponent_digits (exponent : Exponent) (h : EndsNumber rest) :
    skipExponent (exponent.sign ++ (exponent.digits.bytes ++ rest)) = .ok rest := by
  have hdigit := exponent.digits.digit
  have hsigns : exponent.digits.first ≠ byte '+' ∧ exponent.digits.first ≠ byte '-' :=
    ⟨ne_of_digit hdigit rfl, ne_of_digit hdigit rfl⟩
  have hdrop := (split_digits exponent.digits.digits h.digits).2
  have hsign := exponent.isSign
  simp only [List.mem_cons, List.not_mem_nil, or_false] at hsign
  rcases hsign with hsign | hsign | hsign <;>
    simp [skipExponent, hsign, Digits.bytes, hdigit, hsigns, hdrop]

/-- An exponent is skipped, if there is one. -/
theorem skip_scale_exponent (exponent? : Option Exponent) (h : EndsNumber rest) :
    skipScale (exponentBytes exponent? ++ rest) = .ok rest := by
  cases exponent? with
  | none =>
      cases rest with
      | nil => rfl
      | cons b rest => simp [exponentBytes, skipScale, (h b (by simp)).2.2]
  | some exponent =>
      simp [exponentBytes, Exponent.bytes, skipScale, exponent.isMark,
        skip_exponent_digits exponent h]

/-- A number is skipped from after its sign. -/
theorem skip_number_numeral (numeral : Numeral) (h : EndsNumber rest) :
    skipNumber (numeral.unsigned ++ rest) = .ok rest := by
  obtain ⟨isNegative, ⟨first, more, hdigit, hdigits⟩, fraction?, exponent?, hzero⟩ := numeral
  have hbehind := ends_digits_fraction fraction? exponent? h
  have hscale := skip_scale_exponent exponent? h
  have hdrop : (if first = byte '0' then more ++ (fractionBytes fraction? ++
        (exponentBytes exponent? ++ rest))
      else (more ++ (fractionBytes fraction? ++ (exponentBytes exponent? ++ rest))).dropWhile
        isDigit) = fractionBytes fraction? ++ (exponentBytes exponent? ++ rest) := by
    split
    case isTrue hfirst =>
      obtain rfl : more = [] := hzero hfirst
      rfl
    case isFalse => exact (split_digits hdigits hbehind).2
  simp only [Numeral.unsigned, Digits.bytes, List.cons_append, List.append_assoc, skipNumber,
    hdigit, Bool.not_true, Bool.false_eq_true, if_false, hdrop]
  cases fraction? with
  | some digits =>
      have hfraction := ends_digits_exponent exponent? h
      have hskip := (split_digits digits.digits hfraction).2
      have hlength : (digits.first :: (digits.more ++ (exponentBytes exponent? ++ rest))).length ≠
          (exponentBytes exponent? ++ rest).length := by
        simp only [List.length_cons, List.length_append]
        omega
      have hpoint : isDigit (byte '.') = false := rfl
      simp only [fractionBytes, Digits.bytes, List.cons_append, hpoint, Bool.false_eq_true,
        and_false, if_false, if_true, skipFraction, List.dropWhile_cons, digits.digit, hskip,
        if_neg hlength, hscale]
  | none =>
      simp only [fractionBytes, List.nil_append] at hbehind hscale ⊢
      cases hrest : exponentBytes exponent? ++ rest with
      | nil =>
          rw [hrest] at hscale
          exact hscale
      | cons c after =>
          have hcdigit : isDigit c = false := hbehind c (by simp [hrest])
          have hpoint : c ≠ byte '.' := by
            cases exponent? with
            | none => exact (h c (by simpa [exponentBytes] using congrArg List.head? hrest)).2.1
            | some exponent =>
                obtain ⟨rfl, -⟩ : exponent.mark = c ∧ _ := by
                  simpa [exponentBytes, Exponent.bytes] using hrest
                exact (not_digit_of_mark exponent.isMark).2
          rw [hrest] at hscale
          simp [hcdigit, hpoint, hscale]

/-! ## Strings -/

/-- A string is skipped from after its opening quote. -/
theorem skip_string_parts (parts : List Part) (rest : Bytes) :
    skipString (closedBytes parts ++ rest) = .ok rest := by
  unfold skipString closedBytes
  induction parts with
  | nil => simp [skipStringFrom]
  | cons part parts ih =>
      rw [List.flatMap_cons, List.append_assoc, List.append_assoc]
      rw [List.append_assoc] at ih
      cases part with
      | plain b hplain =>
          obtain ⟨hcontrol, hquote, hbackslash⟩ := hplain
          have hquote' : b ≠ byte '"' := fun he => hquote (by rw [he]; rfl)
          have hbackslash' : b ≠ byte '\\' := fun he => hbackslash (by rw [he]; rfl)
          have hcontrol' : ¬ b < 0x20 := fun hlt =>
            Nat.not_lt.2 hcontrol (UInt8.lt_iff_toNat_lt.1 hlt)
          simpa [Part.bytes, skipStringFrom, hquote', hbackslash', hcontrol'] using ih
      | escape letter hescape =>
          have hletter : letter ≠ byte 'u' := by
            rintro rfl
            exact absurd hescape (by decide)
          have hquote : byte '\\' ≠ byte '"' := by decide
          simpa [Part.bytes, skipStringFrom, hletter, hescape, hquote] using ih
      | unit a b c d hunit =>
          have hquote : byte '\\' ≠ byte '"' := by decide
          simpa [Part.bytes, skipStringFrom, hunit, hquote] using ih

/-! ## Values -/

/-- The bytes are skipped as one value, within any open brackets and behind any blanks. -/
def Skips (bytes : Bytes) : Prop :=
  ∃ cost ≤ 2 * bytes.length, ∀ (fuel : Nat) (brackets : List Bracket) (gap : Gap) (rest : Bytes),
    EndsNumber rest →
      skipFrom (fuel + cost) .value brackets (gap.bytes ++ (bytes ++ rest)) =
        skipFrom fuel .after brackets rest

/-- The bytes are skipped as one part of a list or an object, whether it is the first one or stands
behind a comma. -/
def SkipsPart (bracket : Bracket) (bytes : Bytes) : Prop :=
  ∃ cost ≤ 2 * bytes.length, ∀ (fuel : Nat) (outer : List Bracket) (gap : Gap) (rest : Bytes),
    EndsNumber rest →
      skipFrom (fuel + cost + 1) .opened (bracket :: outer) (gap.bytes ++ (bytes ++ rest)) =
          skipFrom fuel .after (bracket :: outer) rest ∧
        skipFrom (fuel + cost + 1) .after (bracket :: outer)
            (gap.bytes ++ byte ',' :: (bytes ++ rest)) =
          skipFrom fuel .after (bracket :: outer) rest

/-- Blanks are skipped behind a value within a bracket. -/
theorem skip_after_gap (fuel : Nat) (bracket : Bracket) (outer : List Bracket) (gap : Gap)
    (rest : Bytes) :
    skipFrom fuel .after (bracket :: outer) (gap.bytes ++ rest) =
      skipFrom fuel .after (bracket :: outer) rest := by
  cases fuel with
  | zero => rfl
  | succ fuel => simp only [skipFrom, skip_blanks_gap]

/-- A bracket is closed. -/
theorem skip_close (fuel : Nat) (bracket : Bracket) (outer : List Bracket) (gap : Gap)
    (rest : Bytes) :
    skipFrom (fuel + 1) .opened (bracket :: outer) (gap.bytes ++ bracket.close :: rest) =
        skipFrom fuel .after outer rest ∧
      skipFrom (fuel + 1) .after (bracket :: outer) (gap.bytes ++ bracket.close :: rest) =
        skipFrom fuel .after outer rest := by
  have hclose : bracket.close ≠ byte ',' ∧ isBlank bracket.close = false := by
    cases bracket <;> decide
  simp [skipFrom, skip_blanks_gap_cons gap hclose.2, hclose.1]

/-- Behind a part of a list or an object comes a comma or its closing bracket. -/
theorem ends_number_parts (bracket : Bracket) (parts : List Bytes) (rest : Bytes) :
    EndsNumber (separateAfter false parts ++ bracket.close :: rest) :=
  (ends_separate_after bracket.close (by cases bracket <;> decide) parts rest).number

/-- Parts behind the first one are skipped up to the closing bracket, and the bracket too. -/
theorem skip_parts {bracket : Bracket} {parts : List Bytes}
    (h : ∀ part ∈ parts, SkipsPart bracket part) :
    ∃ cost ≤ 2 * (separateAfter false parts).length + 1,
      ∀ (fuel : Nat) (outer : List Bracket) (gap : Gap) (rest : Bytes),
        skipFrom (fuel + cost) .after (bracket :: outer)
            (gap.bytes ++ (separateAfter false parts ++ bracket.close :: rest)) =
          skipFrom fuel .after outer rest := by
  induction parts with
  | nil => exact ⟨1, by simp, fun fuel outer gap rest => (skip_close fuel bracket outer gap rest).2⟩
  | cons part parts ih =>
      obtain ⟨⟨first, hfirst, hpart⟩, hparts⟩ := List.forall_mem_cons.1 h
      obtain ⟨more, hmore, hrest⟩ := ih hparts
      refine ⟨more + first + 1, ?_, fun fuel outer gap rest => ?_⟩
      · simp only [separateAfter, Bool.false_eq_true, if_false, List.cons_append, List.length_cons,
          List.length_append]
        omega
      · have hends := ends_number_parts bracket parts rest
        have hskip := hrest fuel outer .none rest
        simp only [Gap.none, List.nil_append] at hskip
        rw [← hskip, ← (hpart (fuel + more) outer gap _ hends).2]
        simp [separateAfter, Nat.add_assoc]

/-- A list or an object is skipped if its parts are. -/
theorem skips_bracket (bracket : Bracket) (opening : UInt8)
    (hopening : ∀ (fuel : Nat) (brackets : List Bracket) (gap : Gap) (rest : Bytes),
      skipFrom (fuel + 1) .value brackets (gap.bytes ++ opening :: rest) =
        skipFrom fuel .opened (bracket :: brackets) rest)
    (inside : Gap) {parts : List Bytes} (h : ∀ part ∈ parts, SkipsPart bracket part) :
    Skips (opening :: (inside.bytes ++ (separate parts ++ [bracket.close]))) := by
  cases parts with
  | nil =>
      refine ⟨2, ?_, fun fuel brackets gap rest _ => ?_⟩
      · simp only [List.length_cons, List.length_append]
        omega
      · have hclose := (skip_close fuel bracket brackets inside rest).1
        rw [← hclose, ← hopening (fuel + 1) brackets gap]
        simp [separate]
  | cons part parts =>
      obtain ⟨⟨first, hfirst, hpart⟩, hparts⟩ := List.forall_mem_cons.1 h
      obtain ⟨more, hmore, hrest⟩ := skip_parts hparts
      refine ⟨more + first + 1 + 1, ?_, fun fuel brackets gap rest _ => ?_⟩
      · simp only [separate_eq, separateAfter, if_true, List.length_cons, List.length_append]
        omega
      · have hends := ends_number_parts bracket parts rest
        have hskip := hrest fuel brackets .none rest
        simp only [Gap.none, List.nil_append] at hskip
        rw [← hskip, ← (hpart (fuel + more) brackets inside _ hends).1, ← hopening _ brackets gap]
        simp [separate_eq, separateAfter, Nat.add_assoc]

/-- An element of a list is skipped if its value is. -/
theorem skips_element (element : Spaced Tree) (h : Skips element.item.bytes) :
    SkipsPart .list (elementBytes element) := by
  obtain ⟨before, value, after⟩ := element
  obtain ⟨cost, hcost, hskip⟩ := h
  refine ⟨cost, ?_, fun fuel outer gap rest hrest => ?_⟩
  · simp only [elementBytes, List.length_append] at hcost ⊢
    omega
  · obtain ⟨b, more, htext, hb⟩ := value.begins
    have hends : EndsNumber (after.bytes ++ rest) := hrest.gap after
    have hvalue := hskip fuel (.list :: outer) .none _ hends
    have hbehind := hskip fuel (.list :: outer) before _ hends
    simp only [Gap.none, List.nil_append] at hvalue
    have hopened : skipBlanks (gap.bytes ++ (elementBytes ⟨before, value, after⟩ ++ rest)) =
        b :: (more ++ (after.bytes ++ rest)) := by
      simp only [elementBytes, List.append_assoc, skip_blanks_gap, htext, List.cons_append,
        skip_blanks_cons hb.blank]
    have hcomma : isBlank (byte ',') = false := rfl
    rw [htext, List.cons_append] at hvalue
    constructor
    · have hopen : b ≠ Bracket.list.close := hb.close
      simp only [skipFrom, hopened, if_neg hopen]
      rw [hvalue, skip_after_gap]
    · simp only [skipFrom, skip_blanks_gap_cons gap hcomma, if_true, elementBytes,
        List.append_assoc]
      rw [hbehind, skip_after_gap]

/-- The key of a member is skipped with its colon. -/
theorem skip_key_parts (gap between : Gap) (key : List Part) (rest : Bytes) :
    skipKey (gap.bytes ++ byte '"' :: (closedBytes key ++ (between.bytes ++ byte ':' :: rest))) =
      .ok rest := by
  have hquote : isBlank (byte '"') = false := rfl
  have hcolon : isBlank (byte ':') = false := rfl
  simp only [skipKey, skip_blanks_gap_cons gap hquote, if_true, skip_string_parts, ok_bind,
    skip_blanks_gap_cons between hcolon]

/-- A member of an object is skipped if its value is. -/
theorem skips_member (member : Member Tree) (h : Skips member.value.item.bytes) :
    SkipsPart .object (memberBytes member) := by
  obtain ⟨before, key, between, ⟨inner, value, after⟩⟩ := member
  obtain ⟨cost, hcost, hskip⟩ := h
  refine ⟨cost, ?_, fun fuel outer gap rest hrest => ?_⟩
  · simp only [memberBytes, elementBytes, List.length_append, List.length_cons] at hcost ⊢
    omega
  · have hvalue := hskip fuel (.object :: outer) inner _ (hrest.gap after)
    have hquote : isBlank (byte '"') = false := rfl
    have hcomma : isBlank (byte ',') = false := rfl
    have hclose : byte '"' ≠ byte '\x7d' := by decide
    constructor
    · have hkey := skip_key_parts .none between key
        (inner.bytes ++ (value.bytes ++ (after.bytes ++ rest)))
      simp only [Gap.none, List.nil_append] at hkey
      simp only [skipFrom, memberBytes, elementBytes, List.append_assoc, List.cons_append,
        skip_blanks_gap, skip_blanks_cons hquote, Bracket.close, if_neg hclose, hkey, ok_bind]
      rw [hvalue, skip_after_gap]
    · have hkey := skip_key_parts before between key
        (inner.bytes ++ (value.bytes ++ (after.bytes ++ rest)))
      simp only [skipFrom, memberBytes, elementBytes, List.append_assoc, List.cons_append,
        skip_blanks_gap_cons gap hcomma, if_true, hkey, ok_bind]
      rw [hvalue, skip_after_gap]

/-- A value without brackets is skipped in one step. -/
theorem skips_leaf {bytes : Bytes} {b : UInt8} {more : Bytes} (htext : bytes = b :: more)
    (hblank : isBlank b = false) (hlist : b ≠ byte '[') (hobject : b ≠ byte '\x7b')
    (h : ∀ rest, EndsNumber rest →
      (if b = byte 'n' then literal [byte 'u', byte 'l', byte 'l'] (more ++ rest)
        else if b = byte 't' then literal [byte 'r', byte 'u', byte 'e'] (more ++ rest)
        else if b = byte 'f' then literal [byte 'a', byte 'l', byte 's', byte 'e'] (more ++ rest)
        else if b = byte '-' then skipNumber (more ++ rest)
        else if isDigit b then skipNumber (b :: (more ++ rest))
        else if b = byte '"' then skipString (more ++ rest)
        else .error (flawPast (b :: (more ++ rest)) .expectedValue)) = .ok rest) :
    Skips bytes := by
  refine ⟨1, ?_, fun fuel brackets gap rest hrest => ?_⟩
  · rw [htext, List.length_cons]
    omega
  · have hskip := h rest hrest
    simp only [skipFrom, htext, List.cons_append, skip_blanks_gap_cons gap hblank, if_neg hlist,
      if_neg hobject]
    split_ifs at hskip ⊢ <;> rw [hskip, ok_bind]

/-- A number is skipped. -/
theorem skips_number (numeral : Numeral) : Skips numeral.bytes := by
  have hdigit := numeral.whole.digit
  have hne : ∀ c, isDigit c = false → numeral.whole.first ≠ c := fun c hc => ne_of_digit hdigit hc
  cases hnegative : numeral.isNegative with
  | true =>
      have htext : numeral.bytes = byte '-' :: numeral.unsigned := by
        simp [Numeral.bytes, hnegative]
      exact skips_leaf htext rfl (by decide) (by decide) fun _ hrest =>
        skip_number_numeral numeral hrest
  | false =>
      have htext : numeral.bytes = numeral.whole.first :: (numeral.whole.more ++
          (fractionBytes numeral.fraction? ++ exponentBytes numeral.exponent?)) := by
        simp [Numeral.bytes, hnegative, Numeral.unsigned, Digits.bytes]
      refine skips_leaf htext (not_blank_of_digit hdigit) (hne _ rfl) (hne _ rfl)
        fun rest hrest => ?_
      have hskip := skip_number_numeral numeral hrest
      simp only [Numeral.unsigned, Digits.bytes, List.cons_append] at hskip
      simp only [if_neg (hne (byte 'n') rfl), if_neg (hne (byte 't') rfl),
        if_neg (hne (byte 'f') rfl), if_neg (hne (byte '-') rfl), hdigit, if_true, hskip]

mutual

/-- Every value is skipped up to its end. -/
theorem Tree.skips : (tree : Tree) → Skips tree.bytes
  | .null =>
      skips_leaf (b := byte 'n') rfl rfl (by decide) (by decide) fun _ _ => rfl
  | .boolean true =>
      skips_leaf (b := byte 't') rfl rfl (by decide) (by decide) fun _ _ => rfl
  | .boolean false =>
      skips_leaf (b := byte 'f') rfl rfl (by decide) (by decide) fun _ _ => rfl
  | .number numeral => skips_number numeral
  | .text parts =>
      skips_leaf (b := byte '"') rfl rfl (by decide) (by decide) fun rest _ =>
        skip_string_parts parts rest
  | .list inside elements =>
      skips_bracket .list (byte '[')
        (fun fuel brackets gap rest => by
          simp only [skipFrom, skip_blanks_gap_cons gap (b := byte '[') rfl, if_true])
        inside (elements_skip elements)
  | .object inside members =>
      skips_bracket .object (byte '\x7b')
        (fun fuel brackets gap rest => by
          have hne : byte '\x7b' ≠ byte '[' := by decide
          simp only [skipFrom, skip_blanks_gap_cons gap (b := byte '\x7b') rfl, if_neg hne,
            if_true])
        inside (members_skip members)

/-- The elements of a list are skipped. -/
theorem elements_skip : (elements : List (Spaced Tree)) →
    ∀ part ∈ elementsBytes elements, SkipsPart .list part
  | [] => nofun
  | ⟨before, value, after⟩ :: elements =>
      List.forall_mem_cons.2 ⟨skips_element ⟨before, value, after⟩ value.skips,
        elements_skip elements⟩

/-- The members of an object are skipped. -/
theorem members_skip : (members : List (Member Tree)) →
    ∀ part ∈ membersBytes members, SkipsPart .object part
  | [] => nofun
  | ⟨before, key, between, ⟨inner, value, after⟩⟩ :: members =>
      List.forall_mem_cons.2
        ⟨skips_member ⟨before, key, between, ⟨inner, value, after⟩⟩ value.skips,
          members_skip members⟩

end

/-- A value is skipped up to its end, whatever it is. -/
theorem skip_value_tree (tree : Tree) (gap : Gap) (hrest : EndsNumber rest) :
    skipValue (gap.bytes ++ (tree.bytes ++ rest)) = .ok rest := by
  obtain ⟨cost, hcost, hskip⟩ := tree.skips
  obtain ⟨fuel, hfuel⟩ : ∃ fuel,
      3 * (gap.bytes ++ (tree.bytes ++ rest)).length + 3 = fuel + 1 + cost := by
    refine ⟨3 * (gap.bytes ++ (tree.bytes ++ rest)).length + 2 - cost, ?_⟩
    simp only [List.length_append]
    omega
  rw [skipValue, hfuel, hskip _ _ _ _ hrest]
  rfl

end CatalogView.Json
