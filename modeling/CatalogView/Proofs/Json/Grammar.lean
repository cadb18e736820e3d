import CatalogView.Json.Codec
import CatalogView.Proofs.Json.Meaning
import CatalogView.Proofs.Json.Spelling

/-!
# What is read is JSON

A reader that does not fail has read the bytes of a JSON value, be it for what the value stands for
or only to get behind it. Brackets that are open while a value is skipped ask each for the rest of
its parts (`Ends`), and every step of skipping finds what it goes on for (`finds_of_skip`). So
nothing is read but documents (`Shape.exists_document`).
-/

namespace CatalogView.Json

open CatalogView.Text

variable {bytes rest : Bytes}

/-! ## Parts of lists and objects -/

/-- The bytes are those of a value, behind blanks and before the rest. -/
def HasValue (bytes rest : Bytes) : Prop :=
  ∃ (gap : Gap) (tree : Tree), bytes = gap.bytes ++ (tree.bytes ++ rest)

/-- The bytes are those of a part of a list or an object. -/
def Bracket.IsPart : Bracket → Bytes → Prop
  | .list, bytes => ∃ element : Spaced Tree, bytes = elementBytes element
  | .object, bytes => ∃ member : Member Tree, bytes = memberBytes member

/-- The bytes are those of a part of a list or an object before the rest. Blanks that come next
belong to the part too. -/
def Bracket.HasPart (bracket : Bracket) (bytes rest : Bytes) : Prop :=
  ∃ front : Bytes, bytes = front ++ rest ∧ ∀ gap : Gap, bracket.IsPart (front ++ gap.bytes)

/-- The bytes are those of parts of a list or an object, and of the bracket that closes it, before
the rest. -/
def Bracket.Closes (bracket : Bracket) (first : Bool) (bytes rest : Bytes) : Prop :=
  ∃ (gap : Gap) (parts : List Bytes), (∀ part ∈ parts, bracket.IsPart part) ∧
    bytes = gap.bytes ++ (separateAfter first parts ++ bracket.close :: rest)

/-- A value is an element of a list. -/
theorem HasValue.element (h : HasValue bytes rest) : Bracket.list.HasPart bytes rest := by
  obtain ⟨before, tree, rfl⟩ := h
  refine ⟨before.bytes ++ tree.bytes, (List.append_assoc ..).symm, fun after => ?_⟩
  exact ⟨⟨before, tree, after⟩, List.append_assoc ..⟩

/-- A value behind a key and a colon is a member of an object. -/
theorem HasValue.member (h : HasValue bytes rest) (before : Gap) (key : List Part)
    (between : Gap) :
    Bracket.object.HasPart
      (before.bytes ++ byte '"' :: (closedBytes key ++ (between.bytes ++ byte ':' :: bytes)))
      rest := by
  obtain ⟨gap, tree, rfl⟩ := h
  refine ⟨memberBytes ⟨before, key, between, ⟨gap, tree, .none⟩⟩, ?_, fun after =>
    ⟨⟨before, key, between, ⟨gap, tree, after⟩⟩, ?_⟩⟩ <;>
  simp [memberBytes, elementBytes, Gap.none]

/-- Blanks may stand before the parts. -/
theorem Bracket.Closes.gap {bracket : Bracket} {first : Bool}
    (h : bracket.Closes first bytes rest) (gap : Gap) :
    bracket.Closes first (gap.bytes ++ bytes) rest := by
  obtain ⟨inside, parts, hparts, rfl⟩ := h
  exact ⟨gap.append inside, parts, hparts, by simp [Gap.append]⟩

/-- Nothing may stand before the closing bracket. -/
theorem Bracket.closes_close (bracket : Bracket) (first : Bool) (rest : Bytes) :
    bracket.Closes first (bracket.close :: rest) rest :=
  ⟨.none, [], nofun, rfl⟩

/-- Nothing does stand before a bracket that comes next. -/
theorem Bracket.Closes.rest_eq {bracket : Bracket} {after : Bytes}
    (h : bracket.Closes false (bracket.close :: after) rest) : rest = after := by
  have hclose : isBlank bracket.close = false ∧ bracket.close ≠ byte ',' := by
    cases bracket <;> decide
  obtain ⟨⟨blanks, hblank⟩, parts, -, hbytes⟩ := h
  cases blanks with
  | cons b blanks =>
      obtain ⟨rfl, -⟩ := List.cons.inj hbytes
      exact absurd (hclose.1.symm.trans (hblank _ (List.mem_cons_self ..))) Bool.false_ne_true
  | nil =>
      cases parts with
      | nil => exact (List.cons.inj hbytes).2.symm
      | cons part parts => exact absurd (List.cons.inj hbytes).1 hclose.2

/-- One more part may stand before the others. There is a comma before it if it is not the first
one. -/
theorem Bracket.HasPart.closes {bracket : Bracket} {next : Bytes}
    (h : bracket.HasPart bytes next) (hnext : bracket.Closes false next rest) (first : Bool) :
    bracket.Closes first (if first then bytes else byte ',' :: bytes) rest := by
  obtain ⟨front, rfl, hfront⟩ := h
  obtain ⟨gap, parts, hparts, rfl⟩ := hnext
  refine ⟨.none, (front ++ gap.bytes) :: parts, List.forall_mem_cons.2 ⟨hfront gap, hparts⟩, ?_⟩
  cases first <;> simp [separateAfter, Gap.none]

/-- Parts of a list are its elements. -/
theorem exists_elements {parts : List Bytes} (h : ∀ part ∈ parts, Bracket.list.IsPart part) :
    ∃ elements : List (Spaced Tree), parts = elementsBytes elements := by
  induction parts with
  | nil => exact ⟨[], rfl⟩
  | cons part parts ih =>
      obtain ⟨⟨element, rfl⟩, hparts⟩ := List.forall_mem_cons.1 h
      obtain ⟨elements, rfl⟩ := ih hparts
      exact ⟨element :: elements, rfl⟩

/-- Parts of an object are its members. -/
theorem exists_members {parts : List Bytes} (h : ∀ part ∈ parts, Bracket.object.IsPart part) :
    ∃ members : List (Member Tree), parts = membersBytes members := by
  induction parts with
  | nil => exact ⟨[], rfl⟩
  | cons part parts ih =>
      obtain ⟨⟨member, rfl⟩, hparts⟩ := List.forall_mem_cons.1 h
      obtain ⟨members, rfl⟩ := ih hparts
      exact ⟨member :: members, rfl⟩

/-- The byte that opens a bracket. -/
def Bracket.opening : Bracket → UInt8
  | .list => byte '['
  | .object => byte '\x7b'

/-- A list or an object is a value, from its opening bracket. -/
theorem Bracket.Closes.value {bracket : Bracket} (h : bracket.Closes true bytes rest) (gap : Gap) :
    HasValue (gap.bytes ++ bracket.opening :: bytes) rest := by
  obtain ⟨inside, parts, hparts, rfl⟩ := h
  cases bracket with
  | list =>
      obtain ⟨elements, rfl⟩ := exists_elements hparts
      refine ⟨gap, .list inside elements, ?_⟩
      simp [Tree.bytes, separate_eq, Bracket.close, Bracket.opening]
  | object =>
      obtain ⟨members, rfl⟩ := exists_members hparts
      refine ⟨gap, .object inside members, ?_⟩
      simp [Tree.bytes, separate_eq, Bracket.close, Bracket.opening]

/-! ## Values without brackets -/

/-- Bytes that are read one by one are there. -/
theorem eq_append_of_literal {expected : Bytes} (h : literal expected bytes = .ok rest) :
    bytes = expected ++ rest := by
  induction expected generalizing bytes with
  | nil =>
      cases h
      rfl
  | cons b expected ih =>
      cases bytes with
      | nil => cases h
      | cons c bytes =>
          simp only [literal] at h
          split_ifs at h with hb
          rw [hb, ih h, List.cons_append]

/-- A string is a value. -/
theorem has_value_of_string (gap : Gap) (h : skipString bytes = .ok rest) :
    HasValue (gap.bytes ++ byte '"' :: bytes) rest := by
  obtain ⟨parts, rfl⟩ := exists_parts_of_skip h
  exact ⟨gap, .text parts, by simp [Tree.bytes]⟩

/-- A number is a value, with its sign if it has one. -/
theorem has_value_of_number (gap : Gap) (h : skipNumber bytes = .ok rest) :
    HasValue (gap.bytes ++ bytes) rest ∧ HasValue (gap.bytes ++ byte '-' :: bytes) rest := by
  obtain ⟨numeral, hsign, rfl⟩ := exists_numeral_of_skip false h
  obtain ⟨negative, hminus, hunsigned⟩ := exists_numeral_of_skip true h
  refine ⟨⟨gap, .number numeral, by simp [Tree.bytes, Numeral.bytes, hsign]⟩, ?_⟩
  rw [hunsigned]
  exact ⟨gap, .number negative, by simp [Tree.bytes, Numeral.bytes, hminus]⟩

/-- A null is a value. -/
theorem has_value_of_null (gap : Gap)
    (h : literal [byte 'u', byte 'l', byte 'l'] bytes = .ok rest) :
    HasValue (gap.bytes ++ byte 'n' :: bytes) rest := by
  rw [eq_append_of_literal h]
  exact ⟨gap, .null, rfl⟩

/-- What is skipped before anything else is a value, if it has no brackets. -/
theorem has_value_of_skip_leaf {b : UInt8} (gap : Gap) {next : Bytes → Except Fault Bytes}
    (h : (if b = byte 'n' then literal [byte 'u', byte 'l', byte 'l'] bytes >>= next
      else if b = byte 't' then literal [byte 'r', byte 'u', byte 'e'] bytes >>= next
      else if b = byte 'f' then literal [byte 'a', byte 'l', byte 's', byte 'e'] bytes >>= next
      else if b = byte '-' then skipNumber bytes >>= next
      else if isDigit b then skipNumber (b :: bytes) >>= next
      else if b = byte '"' then skipString bytes >>= next
      else .error (flawPast (b :: bytes) .expectedValue) >>= next) = .ok rest) :
    ∃ after, HasValue (gap.bytes ++ b :: bytes) after ∧ next after = .ok rest := by
  split_ifs at h with hnull htrue hfalse hminus hdigit htext
  all_goals obtain ⟨after, hafter, hnext⟩ := exists_of_bind_eq_ok h
  all_goals refine ⟨after, ?_, hnext⟩
  · subst hnull
    exact has_value_of_null gap hafter
  · subst htrue
    rw [eq_append_of_literal hafter]
    exact ⟨gap, .boolean true, rfl⟩
  · subst hfalse
    rw [eq_append_of_literal hafter]
    exact ⟨gap, .boolean false, rfl⟩
  · subst hminus
    exact (has_value_of_number gap hafter).2
  · exact (has_value_of_number gap hafter).1
  · subst htext
    exact has_value_of_string gap hafter
  · cases hafter

/-! ## Skipped values -/

/-- The bytes close all the brackets before the rest, given innermost first. -/
def Ends : List Bracket → Bytes → Bytes → Prop
  | [], bytes, rest => bytes = rest
  | bracket :: outer, bytes, rest => ∃ next, bracket.Closes false bytes next ∧ Ends outer next rest

/-- What a step of skipping finds before the rest. -/
def SkipStep.Finds : SkipStep → List Bracket → Bytes → Bytes → Prop
  | .after, brackets, bytes, rest => Ends brackets bytes rest
  | .value, brackets, bytes, rest => ∃ next, HasValue bytes next ∧ Ends brackets next rest
  | .opened, [], _, _ => False
  | .opened, bracket :: outer, bytes, rest =>
    ∃ next, bracket.Closes true bytes next ∧ Ends outer next rest

/-- A key that is skipped is one, with its colon, and a value behind it makes it a member. -/
theorem HasValue.member_of_skip {after : Bytes} (hvalue : HasValue after rest)
    (h : skipKey bytes = .ok after) : Bracket.object.HasPart bytes rest := by
  simp only [skipKey] at h
  split at h
  · cases h
  next b behind hquote =>
    obtain ⟨before, rfl⟩ := exists_gap_of_skip hquote
    split_ifs at h with hb
    subst hb
    obtain ⟨next, hkey, hend⟩ := exists_of_bind_eq_ok h
    obtain ⟨key, rfl⟩ := exists_parts_of_skip hkey
    split at hend
    · cases hend
    next c found hcolon =>
      obtain ⟨between, rfl⟩ := exists_gap_of_skip hcolon
      split_ifs at hend with hc
      subst hc
      cases hend
      exact hvalue.member before key between

/-- A value that is found within a bracket belongs to one of its parts. -/
theorem SkipStep.Finds.closes {bracket : Bracket} {outer : List Bracket} {after : Bytes}
    (h : SkipStep.value.Finds (bracket :: outer) after rest)
    (hpart : ∀ next, HasValue after next → bracket.HasPart bytes next) (first : Bool) (gap : Gap) :
    ∃ next, bracket.Closes first (gap.bytes ++ if first then bytes else byte ',' :: bytes) next ∧
      Ends outer next rest := by
  obtain ⟨next, hvalue, last, hcloses, hends⟩ := h
  exact ⟨last, ((hpart next hvalue).closes hcloses first).gap gap, hends⟩

/-- Every step of skipping finds what it goes on for. -/
theorem finds_of_skip {fuel : Nat} {step : SkipStep} {brackets : List Bracket}
    (h : skipFrom fuel step brackets bytes = .ok rest) : step.Finds brackets bytes rest := by
  induction fuel generalizing step brackets bytes with
  | zero => cases h
  | succ fuel ih =>
      cases step with
      | after =>
          cases brackets with
          | nil =>
              cases h
              rfl
          | cons bracket outer =>
              simp only [skipFrom] at h
              split at h
              · cases h
              next b behind hb =>
                obtain ⟨gap, rfl⟩ := exists_gap_of_skip hb
                split_ifs at h with hcomma hclose
                · subst hcomma
                  cases bracket with
                  | list => exact (ih h).closes (fun _ => HasValue.element) false gap
                  | object =>
                      obtain ⟨after, hkey, h⟩ := exists_of_bind_eq_ok h
                      exact (ih h).closes (fun _ hvalue => hvalue.member_of_skip hkey) false gap
                · subst hclose
                  exact ⟨behind, (bracket.closes_close false behind).gap gap, ih h⟩
      | opened =>
          cases brackets with
          | nil => cases h
          | cons bracket outer =>
              simp only [skipFrom] at h
              split at h
              · cases h
              next b behind hb =>
                obtain ⟨gap, rfl⟩ := exists_gap_of_skip hb
                split_ifs at h with hclose
                · subst hclose
                  exact ⟨behind, (bracket.closes_close true behind).gap gap, ih h⟩
                · cases bracket with
                  | list => exact (ih h).closes (fun _ => HasValue.element) true gap
                  | object =>
                      obtain ⟨after, hkey, h⟩ := exists_of_bind_eq_ok h
                      exact (ih h).closes (fun _ hvalue => hvalue.member_of_skip hkey) true gap
      | value =>
          simp only [skipFrom] at h
          split at h
          · cases h
          next b behind hb =>
            obtain ⟨gap, rfl⟩ := exists_gap_of_skip hb
            by_cases hlist : b = byte '['
            · subst hlist
              obtain ⟨next, hcloses, hends⟩ := ih h
              exact ⟨next, hcloses.value gap, hends⟩
            rw [if_neg hlist] at h
            by_cases hobject : b = byte '\x7b'
            · subst hobject
              obtain ⟨next, hcloses, hends⟩ := ih h
              exact ⟨next, hcloses.value gap, hends⟩
            rw [if_neg hobject] at h
            obtain ⟨next, hvalue, h⟩ := has_value_of_skip_leaf gap h
            exact ⟨next, hvalue, ih h⟩

/-- A value that is skipped is one. -/
theorem has_value_of_skip (h : skipValue bytes = .ok rest) : HasValue bytes rest := by
  obtain ⟨next, hvalue, hends⟩ := finds_of_skip h
  cases hends
  exact hvalue

/-! ## Texts and counts -/

/-- What is refused is not read. -/
theorem refuse_ne_ok {α : Type} {wanted : Wanted} {b : UInt8} {a : α} :
    (refuse wanted b bytes : Except Fault α) ≠ .ok a := by
  intro h
  have hissue := refuse_issues (α := α) wanted b bytes
  rw [h] at hissue
  cases hissue

/-- A text that is read is a value. -/
theorem has_value_of_text {text : String} (h : readText bytes = .ok (text, rest)) :
    HasValue bytes rest := by
  simp only [readText] at h
  split at h
  · cases h
  next b behind hb =>
    obtain ⟨gap, rfl⟩ := exists_gap_of_skip hb
    split_ifs at h with hquote
    · subst hquote
      exact has_value_of_string gap (skip_of_string_from h)
    · exact absurd h refuse_ne_ok

/-- What is taken for a count is followed by what was behind the number. -/
theorem rest_of_count {number : Number} {n : UInt32} (h : countOf number bytes = .ok (n, rest)) :
    rest = bytes := by
  unfold countOf at h
  split at h
  · cases h
  · split_ifs at h
    cases h
    rfl

/-- A count that is read is a value. -/
theorem has_value_of_count {n : UInt32} (h : readCount bytes = .ok (n, rest)) :
    HasValue bytes rest := by
  simp only [readCount] at h
  split at h
  · cases h
  next b behind hb =>
    obtain ⟨gap, rfl⟩ := exists_gap_of_skip hb
    split_ifs at h with hminus hdigit
    · subst hminus
      obtain ⟨⟨number, after⟩, hnumber, h⟩ := exists_of_bind_eq_ok h
      obtain rfl := rest_of_count h
      exact (has_value_of_number gap (skip_of_read_number hnumber)).2
    · obtain ⟨⟨number, after⟩, hnumber, h⟩ := exists_of_bind_eq_ok h
      obtain rfl := rest_of_count h
      exact (has_value_of_number gap (skip_of_read_number hnumber)).1
    · exact absurd h refuse_ne_ok

/-! ## Lists -/

/-- Blanks may stand before a value. -/
theorem HasValue.gap (h : HasValue bytes rest) (gap : Gap) :
    HasValue (gap.bytes ++ bytes) rest := by
  obtain ⟨before, tree, rfl⟩ := h
  exact ⟨gap.append before, tree, by simp [Gap.append]⟩

/-- A list that goes on does so with an element. -/
theorem closes_of_next_element {first : Bool} {next after : Bytes}
    (h : nextElement first bytes = .ok (true, next)) (hvalue : HasValue next after)
    (hcloses : Bracket.list.Closes false after rest) : Bracket.list.Closes first bytes rest := by
  simp only [nextElement] at h
  split at h
  · cases h
  next b behind hb =>
    obtain ⟨gap, rfl⟩ := exists_gap_of_skip hb
    split_ifs at h with hclose hfirst hcomma
    · cases h
    · cases h
      subst hfirst
      exact (hvalue.element.closes hcloses true).gap gap
    · split at h
      · cases h
      next c more hc =>
        obtain ⟨before, rfl⟩ := exists_gap_of_skip hc
        split_ifs at h
        cases h
        rw [Bool.not_eq_true] at hfirst
        subst hfirst hcomma
        exact ((hvalue.gap before).element.closes hcloses false).gap gap

/-- A list that does not go on is before its closing bracket. -/
theorem close_of_next_element {first : Bool} {next : Bytes}
    (h : nextElement first bytes = .ok (false, next)) :
    ∃ (gap : Gap) (after : Bytes), bytes = gap.bytes ++ byte ']' :: after ∧
      next = byte ']' :: after := by
  simp only [nextElement] at h
  split at h
  · cases h
  next b behind hb =>
    obtain ⟨gap, rfl⟩ := exists_gap_of_skip hb
    split_ifs at h with hclose hfirst hcomma
    · cases h
      exact ⟨gap, behind, by rw [hclose], by rw [hclose]⟩
    · cases h
    · split at h
      · cases h
      · split_ifs at h
        cases h

/-- A list ends with its closing bracket. -/
theorem closes_of_end_list (first : Bool) (h : endList bytes = .ok rest) :
    Bracket.list.Closes first bytes rest := by
  simp only [endList] at h
  split at h
  · cases h
  next b behind hb =>
    obtain ⟨gap, rfl⟩ := exists_gap_of_skip hb
    split_ifs at h with hclose hcomma
    · cases h
      rw [hclose]
      exact (Bracket.list.closes_close first rest).gap gap
    · split at h <;> cases h

section

variable {α : Type} {element : Reader α}

/-- Elements that are read are those of a list, up to its closing bracket. -/
theorem closes_of_elements
    (helement : ∀ (bytes rest : Bytes) (a : α), element bytes = .ok (a, rest) → HasValue bytes rest)
    {fuel : Nat} {first : Bool} {values : List α}
    (h : elementsFrom element fuel first bytes = .ok (values, rest)) :
    ∃ after, rest = byte ']' :: after ∧ Bracket.list.Closes first bytes after := by
  induction fuel generalizing first bytes values with
  | zero => cases h
  | succ fuel ih =>
      obtain ⟨⟨goesOn, next⟩, hnext, h⟩ := exists_of_bind_eq_ok h
      cases goesOn with
      | false =>
          cases h
          obtain ⟨gap, after, rfl, rfl⟩ := close_of_next_element hnext
          exact ⟨after, rfl, (Bracket.list.closes_close first after).gap gap⟩
      | true =>
          obtain ⟨⟨value, behind⟩, hvalue, h⟩ := exists_of_bind_eq_ok h
          obtain ⟨⟨others, left⟩, hothers, h⟩ := exists_of_bind_eq_ok h
          cases h
          obtain ⟨after, rfl, hcloses⟩ := ih hothers
          exact ⟨after, rfl, closes_of_next_element hnext (helement _ _ _ hvalue) hcloses⟩

/-- A list that is read is a value. -/
theorem has_value_of_list
    (helement : ∀ (bytes rest : Bytes) (a : α), element bytes = .ok (a, rest) → HasValue bytes rest)
    {values : List α} (h : readList element bytes = .ok (values, rest)) : HasValue bytes rest := by
  simp only [readList] at h
  split at h
  · cases h
  next b behind hb =>
    obtain ⟨gap, rfl⟩ := exists_gap_of_skip hb
    split_ifs at h with hopen
    · subst hopen
      obtain ⟨⟨elements, next⟩, helements, h⟩ := exists_of_bind_eq_ok h
      obtain ⟨last, hend, h⟩ := exists_of_bind_eq_ok h
      cases h
      obtain ⟨after, rfl, hcloses⟩ := closes_of_elements helement helements
      obtain rfl : rest = after := (closes_of_end_list false hend).rest_eq
      exact hcloses.value gap
    · exact absurd h refuse_ne_ok

end

/-! ## Objects -/

/-- The bytes are those of a colon and a value before the rest. -/
def HasEntry (bytes rest : Bytes) : Prop :=
  ∃ (between : Gap) (after : Bytes), bytes = between.bytes ++ byte ':' :: after ∧
    HasValue after rest

/-- A colon that is read is there, and a value behind it makes it an entry. -/
theorem HasValue.entry {after : Bytes} (hvalue : HasValue after rest)
    (h : readColon bytes = .ok after) : HasEntry bytes rest := by
  simp only [readColon] at h
  split at h
  · cases h
  next b behind hb =>
    obtain ⟨gap, rfl⟩ := exists_gap_of_skip hb
    split_ifs at h with hcolon
    cases h
    exact ⟨gap, after, by rw [hcolon], hvalue⟩

/-- An object that goes on does so with a member. -/
theorem closes_of_next_key {first : Bool} {next behind after : Bytes} {key : String}
    (h : nextKey first bytes = .ok (true, next)) (hkey : readString next = .ok (key, behind))
    (hentry : HasEntry behind after) (hcloses : Bracket.object.Closes false after rest) :
    Bracket.object.Closes first bytes rest := by
  obtain ⟨parts, rfl⟩ := exists_parts_of_read hkey
  obtain ⟨between, found, rfl, hvalue⟩ := hentry
  simp only [nextKey] at h
  split at h
  · cases h
  next b more hb =>
    obtain ⟨gap, rfl⟩ := exists_gap_of_skip hb
    split_ifs at h with hclose hfirst hquote hcomma
    · cases h
    · cases h
      subst hfirst hquote
      exact ((hvalue.member .none parts between).closes hcloses true).gap gap
    · split at h
      · cases h
      next c left hc =>
        obtain ⟨before, rfl⟩ := exists_gap_of_skip hc
        split_ifs at h with hquote
        cases h
        rw [Bool.not_eq_true] at hfirst
        subst hfirst hcomma hquote
        exact ((hvalue.member before parts between).closes hcloses false).gap gap

/-- An object that does not go on is before its closing bracket. -/
theorem close_of_next_key {first : Bool} {next : Bytes}
    (h : nextKey first bytes = .ok (false, next)) :
    ∃ (gap : Gap) (after : Bytes), bytes = gap.bytes ++ byte '\x7d' :: after ∧
      next = byte '\x7d' :: after := by
  simp only [nextKey] at h
  split at h
  · cases h
  next b behind hb =>
    obtain ⟨gap, rfl⟩ := exists_gap_of_skip hb
    split_ifs at h with hclose hfirst hquote hcomma
    · cases h
      exact ⟨gap, behind, by rw [hclose], by rw [hclose]⟩
    · cases h
    · split at h
      · cases h
      · split_ifs at h
        cases h

/-- Members that are read are those of an object, up to its closing bracket. -/
theorem closes_of_members {σ : Type} {member : String → σ → Reader σ}
    (hmember : ∀ (key : String) (slots last : σ) (bytes rest : Bytes),
      member key slots bytes = .ok (last, rest) → HasEntry bytes rest)
    {fuel : Nat} {first : Bool} {slots last : σ}
    (h : membersFrom member fuel first slots bytes = .ok (last, rest)) :
    ∃ after, rest = byte '\x7d' :: after ∧ Bracket.object.Closes first bytes after := by
  induction fuel generalizing first slots bytes with
  | zero => cases h
  | succ fuel ih =>
      obtain ⟨⟨goesOn, next⟩, hnext, h⟩ := exists_of_bind_eq_ok h
      cases goesOn with
      | false =>
          cases h
          obtain ⟨gap, after, rfl, rfl⟩ := close_of_next_key hnext
          exact ⟨after, rfl, (Bracket.object.closes_close first after).gap gap⟩
      | true =>
          obtain ⟨⟨key, behind⟩, hkey, h⟩ := exists_of_bind_eq_ok h
          obtain ⟨⟨filled, left⟩, hfilled, h⟩ := exists_of_bind_eq_ok h
          obtain ⟨after, rfl, hcloses⟩ := ih h
          exact ⟨after, rfl, closes_of_next_key hnext hkey (hmember _ _ _ _ _ hfilled) hcloses⟩

/-- An object ends with its closing bracket. -/
theorem rest_of_end_object {after : Bytes} (h : endObject (byte '\x7d' :: after) = .ok rest) :
    rest = after := by
  simp only [endObject, skip_blanks_cons (b := byte '\x7d') rfl, if_true] at h
  cases h
  rfl

/-! ## Values of a shape -/

/-- A value that may be null is one. -/
theorem has_value_of_optional {inner : Shape}
    (hinner : ∀ (bytes rest : Bytes) (value : inner.Value),
      inner.read bytes = .ok (value, rest) → HasValue bytes rest)
    {value : (Shape.optional inner).Value}
    (h : (Shape.optional inner).read bytes = .ok (value, rest)) : HasValue bytes rest := by
  simp only [Shape.read] at h
  split at h
  next hb =>
    obtain ⟨gap, rfl⟩ := exists_gap_of_skip hb
    obtain ⟨⟨some, after⟩, hvalue, h⟩ := exists_of_bind_eq_ok h
    cases h
    exact (hinner _ _ _ hvalue).gap gap
  next b behind hb =>
    obtain ⟨gap, rfl⟩ := exists_gap_of_skip hb
    split_ifs at h with hnull
    · subst hnull
      obtain ⟨after, hafter, h⟩ := exists_of_bind_eq_ok h
      cases h
      exact has_value_of_null gap hafter
    · obtain ⟨⟨some, after⟩, hvalue, h⟩ := exists_of_bind_eq_ok h
      cases h
      exact (hinner _ _ _ hvalue).gap gap

mutual

/-- What is read as a value of a shape is one. -/
theorem Shape.has_value_of_read : (shape : Shape) → (bytes rest : Bytes) → (value : shape.Value) →
    shape.read bytes = .ok (value, rest) → HasValue bytes rest
  | .text, _, _, _, h => has_value_of_text h
  | .count, _, _, _, h => has_value_of_count h
  | .optional inner, _, _, _, h => has_value_of_optional inner.has_value_of_read h
  | .list element, _, _, _, h => has_value_of_list element.has_value_of_read h
  | .record name fields, bytes, rest, value, h => by
      simp only [Shape.read] at h
      split at h
      · cases h
      next b behind hb =>
        obtain ⟨gap, rfl⟩ := exists_gap_of_skip hb
        split_ifs at h with hlist hobject
        · subst hlist
          have hcloses := fields.closes_of_read_whole name fields.size 0 behind rest value h
          exact hcloses.value gap
        · subst hobject
          obtain ⟨⟨slots, next⟩, hslots, h⟩ := exists_of_bind_eq_ok h
          obtain ⟨after, rfl, hcloses⟩ := closes_of_members fields.has_entry_of_read hslots
          simp only at h
          split at h
          next values hvalues =>
            obtain ⟨last, hend, h⟩ := exists_of_bind_eq_ok h
            cases h
            obtain rfl := rest_of_end_object hend
            exact hcloses.value gap
          next => cases h
        · exact absurd h refuse_ne_ok

/-- What is read as the list of the fields of a record is a list. -/
theorem Fields.closes_of_read_whole : (fields : Fields) → (name : String) → (size index : Nat) →
    (bytes rest : Bytes) → (values : fields.Values) →
    fields.readWhole name size index bytes = .ok (values, rest) →
    Bracket.list.Closes (index == 0) bytes rest
  | .nil, name, size, index, bytes, rest, values, h => by
      simp only [Fields.readWhole, Fields.readElements, ok_bind] at h
      obtain ⟨last, hend, h⟩ := exists_of_bind_eq_ok h
      cases h
      exact closes_of_end_list _ hend
  | .cons field shape mayBeOmitted fields, name, size, index, bytes, rest, values, h => by
      rw [Fields.read_whole_cons] at h
      obtain ⟨⟨goesOn, next⟩, hnext, h⟩ := exists_of_bind_eq_ok h
      have hfirst : (index + 1 == 0) = false := rfl
      cases goesOn with
      | false =>
          obtain ⟨gap, after, rfl, rfl⟩ := close_of_next_element hnext
          cases mayBeOmitted with
          | false => cases h
          | true =>
              simp only [Bool.false_eq_true, if_false, if_true, ok_bind] at h
              obtain ⟨⟨others, left⟩, hothers, h⟩ := exists_of_bind_eq_ok h
              cases h
              have hcloses := fields.closes_of_read_whole _ _ _ _ _ _ hothers
              rw [hfirst] at hcloses
              rw [hcloses.rest_eq]
              exact (Bracket.list.closes_close _ after).gap gap
      | true =>
          obtain ⟨⟨value, after⟩, hvalue, h⟩ := exists_of_bind_eq_ok h
          obtain ⟨⟨others, left⟩, hothers, h⟩ := exists_of_bind_eq_ok h
          cases h
          have hcloses := fields.closes_of_read_whole _ _ _ _ _ _ hothers
          rw [hfirst] at hcloses
          exact closes_of_next_element hnext (shape.has_value_of_read _ _ _ hvalue) hcloses

/-- What is read of a member behind its key is a colon and a value. -/
theorem Fields.has_entry_of_read : (fields : Fields) → (key : String) →
    (slots last : fields.Slots) → (bytes rest : Bytes) →
    fields.readMember key slots bytes = .ok (last, rest) → HasEntry bytes rest
  | .nil, key, slots, last, bytes, rest, h => by
      simp only [Fields.readMember] at h
      obtain ⟨after, hcolon, h⟩ := exists_of_bind_eq_ok h
      obtain ⟨left, hskip, h⟩ := exists_of_bind_eq_ok h
      cases h
      exact (has_value_of_skip hskip).entry hcolon
  | .cons name shape mayBeOmitted fields, key, (slot, slots), last, bytes, rest, h => by
      simp only [Fields.readMember] at h
      split at h
      · cases slot with
        | some value => cases h
        | none =>
            obtain ⟨after, hcolon, h⟩ := exists_of_bind_eq_ok h
            obtain ⟨⟨value, left⟩, hvalue, h⟩ := exists_of_bind_eq_ok h
            cases h
            exact (shape.has_value_of_read _ _ _ hvalue).entry hcolon
      · obtain ⟨⟨filled, left⟩, hfilled, h⟩ := exists_of_bind_eq_ok h
        cases h
        exact fields.has_entry_of_read _ _ _ _ _ hfilled

end

/-- What is decoded is a document. -/
theorem Shape.exists_document (shape : Shape) {value : shape.Value}
    (h : shape.decode bytes = .ok value) : ∃ document : Document, document.bytes = bytes := by
  obtain ⟨⟨read, rest⟩, hread, hend⟩ := exists_of_bind_eq_ok h
  obtain ⟨before, tree, rfl⟩ := shape.has_value_of_read _ _ _ hread
  simp only at hend
  split at hend
  next hnothing =>
    obtain ⟨after, rfl⟩ := exists_gap_of_skip hnothing
    exact ⟨⟨before, tree, after⟩, by simp [Spaced.bytes, elementBytes]⟩
  next => cases hend

/-! ## Types with a JSON form -/

variable {α : Type}

/-- A JSON value stands for a value of the type. -/
def Codec.Means (codec : Codec α) (tree : Tree) (a : α) : Prop :=
  ∃ value, codec.shape.meaning tree = .ok value ∧ codec.ofValue value = a

/-- A document is decoded as what it stands for. -/
theorem Codec.decode_document_iff (codec : Codec α) {document : Document} {a : α} :
    codec.decode document.bytes = .ok a ↔ codec.Means document.item a := by
  rw [Codec.Means, ← codec.shape.decode_document, Codec.decode]
  cases codec.shape.decode document.bytes <;> simp [Except.map]

/-- What is decoded is a document, as what it stands for. -/
theorem Codec.decode_iff (codec : Codec α) {a : α} :
    codec.decode bytes = .ok a ↔
      ∃ document : Document, document.bytes = bytes ∧ codec.Means document.item a := by
  constructor
  · intro h
    obtain ⟨document, rfl⟩ : ∃ document : Document, document.bytes = bytes := by
      rw [Codec.decode] at h
      cases hvalue : codec.shape.decode bytes with
      | error fault =>
          rw [hvalue] at h
          cases h
      | ok value => exact codec.shape.exists_document hvalue
    exact ⟨document, rfl, codec.decode_document_iff.1 h⟩
  · rintro ⟨document, rfl, h⟩
    exact codec.decode_document_iff.2 h

end CatalogView.Json
