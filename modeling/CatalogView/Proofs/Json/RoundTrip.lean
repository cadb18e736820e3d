import CatalogView.Json.Codec
import CatalogView.Proofs.Json.Lexeme

/-!
# Values of a shape read back

Reading undoes writing for every shape that is unambiguous (`Shape.read_encode`, by recursion on the
shape). What follows a value matters only in so far as it must not belong to it, so the readers of
lists and records get their parts from the readers of their elements and fields. From this
`Codec.decode_encode` follows for every type with a JSON form.
-/

namespace CatalogView.Json

open CatalogView.Text

/-! ## Unambiguous shapes -/

/-- The shape has null among its values. -/
def Shape.allowsNull : Shape → Bool
  | .optional _ => true
  | .text | .count | .list _ | .record _ _ => false

/-- The names of the fields of a record. -/
def Fields.names : Fields → List String
  | .nil => []
  | .cons name _ _ rest => name :: rest.names

mutual

/-- No two values are written alike: null stands for one value only, and the fields of a record have
different names. -/
def Shape.isUnambiguous : Shape → Bool
  | .text | .count => true
  | .optional inner => !inner.allowsNull && inner.isUnambiguous
  | .list element => element.isUnambiguous
  | .record _ fields => fields.areUnambiguous

/-- The fields of a record have different names and unambiguous shapes. -/
def Fields.areUnambiguous : Fields → Bool
  | .nil => true
  | .cons name shape _ rest =>
    decide (name ∉ rest.names) && shape.isUnambiguous && rest.areUnambiguous

end

/-- The bytes begin with one that can begin a value, which is the one of null only where null is
allowed. -/
def BeginsValue (allowsNull : Bool) (bytes : Bytes) : Prop :=
  ∃ b more, bytes = b :: more ∧ isBlank b = false ∧ b ≠ byte ']' ∧
    (b = byte 'n' → allowsNull = true)

/-- What is written of a value begins one. -/
theorem Shape.encode_begins : (shape : Shape) → (value : shape.Value) →
    BeginsValue shape.allowsNull (shape.encode value)
  | .text, _ => ⟨byte '"', _, rfl, rfl, by decide, by decide⟩
  | .count, value => by
      obtain ⟨first, more, htext, hnumeral⟩ := exists_numeral (UInt32.toNat value)
      exact ⟨first, more, htext, not_blank_of_digit hnumeral.digit,
        ne_of_digit hnumeral.digit rfl, fun hn => absurd hn (ne_of_digit hnumeral.digit rfl)⟩
  | .optional inner, value => by
      cases value with
      | none => exact ⟨byte 'n', _, rfl, rfl, by decide, fun _ => rfl⟩
      | some value =>
          obtain ⟨b, more, htext, hblank, hclose, -⟩ := inner.encode_begins value
          exact ⟨b, more, htext, hblank, hclose, fun _ => rfl⟩
  | .list _, _ => ⟨byte '[', _, rfl, rfl, by decide, fun hn => absurd hn (by decide)⟩
  | .record _ _, _ => ⟨byte '\x7b', _, rfl, rfl, by decide, fun hn => absurd hn (by decide)⟩

/-! ## Parts between commas -/

/-- The parts of a list or an object, with a comma before each of them but the first of all. -/
def separateAfter : Bool → List Bytes → Bytes
  | _, [] => []
  | first, part :: parts => (if first then part else byte ',' :: part) ++ separateAfter false parts

/-- There is a comma between the parts if there is one before each but the first. -/
theorem separate_eq : (parts : List Bytes) → separate parts = separateAfter true parts
  | [] => rfl
  | [part] => (List.append_nil part).symm
  | part :: next :: parts => by
      have hparts := separate_eq (next :: parts)
      simp_all [separate, separateAfter]

/-- Parts that are not empty are no more than their bytes. -/
theorem length_le_separate_after {parts : List Bytes} (h : ∀ part ∈ parts, part ≠ [])
    (first : Bool) : parts.length ≤ (separateAfter first parts).length := by
  induction parts generalizing first with
  | nil => exact Nat.zero_le _
  | cons part parts ih =>
      obtain ⟨hpart, hparts⟩ := List.forall_mem_cons.1 h
      have hlength : 0 < part.length := List.length_pos_iff.2 hpart
      have hrest := ih hparts false
      cases first <;> simp [separateAfter] <;> omega

/-- After a part comes a comma or what closes the whole. -/
theorem ends_separate_after (close : UInt8) (hclose : close ∈ [byte ']', byte '\x7d'])
    (parts : List Bytes) (rest : Bytes) :
    EndsValue (separateAfter false parts ++ close :: rest) := by
  cases parts with
  | nil => simpa [EndsValue, separateAfter] using Or.inr (by simpa using hclose)
  | cons part parts => simp [EndsValue, separateAfter]

/-! ## Lists -/

variable {α : Type} {element : Reader α} {write : α → Bytes}

/-- Where a part begins a value, a list goes on. -/
theorem next_element_part {allowsNull : Bool} {part : Bytes} (h : BeginsValue allowsNull part)
    (first : Bool) (rest : Bytes) :
    nextElement first ((if first then part else byte ',' :: part) ++ rest) =
      .ok (true, part ++ rest) := by
  obtain ⟨b, more, rfl, hblank, hclose, -⟩ := h
  have hcomma : byte ',' ≠ byte ']' := by decide
  cases first <;>
    simp [nextElement, skip_blanks_cons hblank, skip_blanks_cons (b := byte ',') rfl, hclose,
      hcomma]

/-- A list ends at its closing bracket. -/
theorem next_element_end (first : Bool) (rest : Bytes) :
    nextElement first (byte ']' :: rest) = .ok (false, byte ']' :: rest) := by
  simp [nextElement, skip_blanks_cons (b := byte ']') rfl]

/-- The elements of a list are read up to its closing bracket. -/
theorem elements_from_append {values : List α}
    (hread : ∀ value ∈ values, ∀ rest, EndsValue rest →
      element (write value ++ rest) = .ok (value, rest))
    (hbegins : ∀ value, ∃ allowsNull, BeginsValue allowsNull (write value))
    {fuel : Nat} (hfuel : values.length < fuel) (first : Bool) (rest : Bytes) :
    elementsFrom element fuel first (separateAfter first (values.map write) ++ byte ']' :: rest) =
      .ok (values, byte ']' :: rest) := by
  induction values generalizing fuel first with
  | nil =>
      obtain ⟨fuel, rfl⟩ := Nat.exists_eq_add_of_lt hfuel
      simp [elementsFrom, separateAfter, next_element_end, pure, Except.pure]
  | cons value values ih =>
      obtain ⟨hvalue, hvalues⟩ := List.forall_mem_cons.1 hread
      obtain ⟨allowsNull, hpart⟩ := hbegins value
      cases fuel with
      | zero => exact absurd hfuel (Nat.not_lt_zero _)
      | succ fuel =>
          have hends := ends_separate_after (byte ']') (by simp) (values.map write) rest
          have hrest := ih hvalues (Nat.lt_of_succ_lt_succ hfuel) false
          simp [elementsFrom, separateAfter, next_element_part hpart, hvalue _ hends, hrest, pure,
            Except.pure]

/-- A list ends where its closing bracket is read. -/
theorem end_list_close (rest : Bytes) : endList (byte ']' :: rest) = .ok rest := by
  simp [endList, skip_blanks_cons (b := byte ']') rfl]

/-- A list is read up to its end, whatever follows. -/
theorem read_list_append {values : List α}
    (hread : ∀ value ∈ values, ∀ rest, EndsValue rest →
      element (write value ++ rest) = .ok (value, rest))
    (hbegins : ∀ value, ∃ allowsNull, BeginsValue allowsNull (write value)) (rest : Bytes) :
    readList element (byte '[' :: separate (values.map write) ++ [byte ']'] ++ rest) =
      .ok (values, rest) := by
  have hfuel :
      values.length < (separateAfter true (values.map write) ++ byte ']' :: rest).length + 1 := by
    have hparts : ∀ part ∈ values.map write, part ≠ [] := by
      intro part hmem
      obtain ⟨value, -, rfl⟩ := List.mem_map.1 hmem
      obtain ⟨-, b, more, htext, -⟩ := hbegins value
      simp [htext]
    have hlength := length_le_separate_after hparts true
    rw [List.length_map] at hlength
    rw [List.length_append]
    omega
  -- the reader may take as many elements as there are bytes, and every element has one
  have helements := elements_from_append hread hbegins hfuel true rest
  simp only [separate_eq, List.cons_append, List.append_assoc, List.nil_append, readList,
    skip_blanks_cons (b := byte '[') rfl, if_true, helements, ok_bind, end_list_close]
  rfl

/-! ## Records -/

/-- An object goes on at the opening quote of a key. -/
theorem next_key_part (first : Bool) (key : String) (text rest : Bytes) :
    nextKey first ((if first then stringBytes key ++ text
        else byte ',' :: (stringBytes key ++ text)) ++ rest) =
      .ok (true, key.toList.flatMap charBytes ++ byte '"' :: (text ++ rest)) := by
  have hquote : byte '"' ≠ byte '\x7d' := by decide
  have hcomma : byte ',' ≠ byte '\x7d' := by decide
  cases first <;>
    simp [nextKey, stringBytes, skip_blanks_cons (b := byte '"') rfl,
      skip_blanks_cons (b := byte ',') rfl, hquote, hcomma]

/-- An object ends at its closing bracket. -/
theorem next_key_end (first : Bool) (rest : Bytes) :
    nextKey first (byte '\x7d' :: rest) = .ok (false, byte '\x7d' :: rest) := by
  simp [nextKey, skip_blanks_cons (b := byte '\x7d') rfl]

/-- Reading the members of an object one after the other, of which each has one of the names, leads
from some slots to others. -/
inductive Fills {σ : Type} (member : String → σ → Reader σ) (names : List String) :
    List Bytes → σ → σ → Prop where
  | nil (slots : σ) : Fills member names [] slots slots
  | cons {key : String} {text : Bytes} {slots next last : σ} {members : List Bytes}
      (hkey : key ∈ names)
      (hread : ∀ rest, EndsValue rest →
        member key slots (byte ':' :: text ++ rest) = .ok (next, rest))
      (hmembers : Fills member names members next last) :
      Fills member names ((stringBytes key ++ byte ':' :: text) :: members) slots last

/-- The members of an object are read up to its closing bracket. -/
theorem Fills.members_from {σ : Type} {member : String → σ → Reader σ} {names : List String}
    {members : List Bytes} {slots last : σ} (h : Fills member names members slots last)
    {fuel : Nat} (hfuel : members.length < fuel) (first : Bool) (rest : Bytes) :
    membersFrom member fuel first slots (separateAfter first members ++ byte '\x7d' :: rest) =
      .ok (last, byte '\x7d' :: rest) := by
  induction h generalizing fuel first with
  | nil slots =>
      obtain ⟨fuel, rfl⟩ := Nat.exists_eq_add_of_lt hfuel
      simp [membersFrom, separateAfter, next_key_end, pure, Except.pure]
  | @cons key text slots next last members _ hread _ ih =>
      cases fuel with
      | zero => exact absurd hfuel (Nat.not_lt_zero _)
      | succ fuel =>
          have hends := ends_separate_after (byte '\x7d') (by simp) members rest
          have hrest := ih (Nat.lt_of_succ_lt_succ hfuel) false
          have hnext := next_key_part first key (byte ':' :: text)
            (separateAfter false members ++ byte '\x7d' :: rest)
          rw [separateAfter, List.append_assoc, membersFrom, hnext]
          simp only [ok_bind, if_true, read_string_append, hread _ hends, hrest]

/-- An object is read up to its closing bracket, from after its opening one. -/
theorem Fills.members_of_object {σ : Type} {member : String → σ → Reader σ} {names : List String}
    {members : List Bytes} {slots last : σ} (h : Fills member names members slots last)
    (rest : Bytes) :
    membersFrom member ((separate members ++ byte '\x7d' :: rest).length + 1) true slots
        (separate members ++ byte '\x7d' :: rest) =
      .ok (last, byte '\x7d' :: rest) := by
  have hparts : ∀ part ∈ members, part ≠ [] := by
    induction h with
    | nil => simp
    | cons _ _ _ ih => exact List.forall_mem_cons.2 ⟨by simp [stringBytes], ih⟩
  have hlength := length_le_separate_after hparts true
  rw [separate_eq]
  refine h.members_from ?_ true rest
  rw [List.length_append]
  omega

/-- The colon after a key is read. -/
theorem read_colon_append (rest : Bytes) : readColon (byte ':' :: rest) = .ok rest := by
  simp [readColon, skip_blanks_cons (b := byte ':') rfl]

/-- An object ends where its closing bracket is read. -/
theorem end_object_close (rest : Bytes) : endObject (byte '\x7d' :: rest) = .ok rest := by
  simp [endObject, skip_blanks_cons (b := byte '\x7d') rfl]

/-- The slots that the members of a record fill: all but those of fields that are null. -/
def Fields.written : (fields : Fields) → fields.Values → fields.Slots
  | .nil, _ => ()
  | .cons _ shape _ rest, (value, values) =>
    (if shape.isNull value then none else some value, rest.written values)

/-- A value that is null is the one for a field that is left out. -/
theorem Shape.eq_of_is_null {shape : Shape} {value : shape.Value} (h : shape.isNull value = true) :
    shape.blank = value ∧ shape.absent? = some value := by
  cases shape with
  | optional inner =>
      cases value with
      | none => exact ⟨rfl, rfl⟩
      | some value => cases h
  | text | count | list | record => cases h

/-- The slots that are filled give back the values. -/
theorem Fields.close_written (fields : Fields) (values : fields.Values) :
    fields.close (fields.written values) = .ok values := by
  match fields, values with
  | .nil, _ => rfl
  | .cons name shape mayBeOmitted rest, (value, values) =>
      have hrest := rest.close_written values
      cases hnull : shape.isNull value with
      | false => simp [Fields.written, Fields.close, hnull, hrest, pure, Except.pure]
      | true =>
          obtain ⟨hblank, habsent⟩ := Shape.eq_of_is_null hnull
          cases mayBeOmitted <;>
            simp [Fields.written, Fields.close, hnull, hrest, hblank, habsent, pure, Except.pure]

/-- The members of a record leave the slot of a field alone that has none of their names. -/
theorem Fills.skip_field {fields : Fields} {name : String} {shape : Shape} {mayBeOmitted : Bool}
    {members : List Bytes} {slots last : fields.Slots}
    (h : Fills fields.readMember fields.names members slots last) (hname : name ∉ fields.names)
    (slot : Option shape.Value) :
    Fills (Fields.cons name shape mayBeOmitted fields).readMember (name :: fields.names) members
      (slot, slots) (slot, last) := by
  induction h with
  | nil => exact .nil _
  | @cons key text slots next last members hkey hread _ ih =>
      have hne : key ≠ name := fun he => hname (he ▸ hkey)
      refine .cons (List.mem_cons_of_mem _ hkey) (fun rest hrest => ?_) ih
      simp only [Fields.readMember, if_neg hne, hread rest hrest, ok_bind]
      rfl

/-! ## All shapes -/

mutual

/-- A value is read up to its end, if what follows cannot belong to it. -/
theorem Shape.read_encode : (shape : Shape) → shape.isUnambiguous = true → (value : shape.Value) →
    (rest : Bytes) → EndsValue rest → shape.read (shape.encode value ++ rest) = .ok (value, rest)
  | .text, _, value, rest, _ => read_text_append value rest
  | .count, _, value, rest, hrest => read_count_append value hrest
  | .optional inner, h, value, rest, hrest => by
      simp only [Shape.isUnambiguous, Bool.and_eq_true, Bool.not_eq_true'] at h
      cases value with
      | none => rfl
      | some value =>
          obtain ⟨b, more, htext, hblank, -, hnull⟩ := inner.encode_begins value
          have hvalue := inner.read_encode h.2 value rest hrest
          -- only null begins like null, and the inner shape has none
          have hnotNull : b ≠ byte 'n' := fun hn =>
            absurd (hnull hn) (by rw [h.1]; exact Bool.false_ne_true)
          rw [htext, List.cons_append] at hvalue
          simp only [Shape.encode, Shape.read, htext, List.cons_append, skip_blanks_cons hblank,
            if_neg hnotNull, hvalue, ok_bind]
          rfl
  | .list element, h, values, rest, _ => by
      have helement := element.read_encode h
      exact read_list_append (fun value _ => helement value)
        (fun value => ⟨_, element.encode_begins value⟩) rest
  | .record name fields, h, values, rest, _ => by
      have hmembers := (fields.fills_members h values).members_of_object rest
      have hclose := fields.close_written values
      have hbracket : byte '\x7b' ≠ byte '[' := by decide
      simp only [Shape.encode, Shape.read, List.cons_append, List.append_assoc, List.nil_append,
        skip_blanks_cons (b := byte '\x7b') rfl, if_neg hbracket, if_true, hmembers, ok_bind,
        hclose, end_object_close]
      rfl

/-- The members of a record fill its slots. -/
theorem Fields.fills_members : (fields : Fields) → fields.areUnambiguous = true →
    (values : fields.Values) →
    Fills fields.readMember fields.names (fields.members values) fields.unread
      (fields.written values)
  | .nil, _, _ => .nil _
  | .cons name shape mayBeOmitted fields, h, (value, values) => by
      simp only [Fields.areUnambiguous, Bool.and_eq_true, decide_eq_true_eq] at h
      obtain ⟨⟨hname, hshape⟩, hfields⟩ := h
      have hmembers := fields.fills_members hfields values
      cases hnull : shape.isNull value with
      | true =>
          -- nothing is written of the field, and no other member has its name
          simp only [Fields.members, Fields.written, hnull, if_true]
          exact hmembers.skip_field hname none
      | false =>
          have hread : ∀ rest, EndsValue rest →
              (Fields.cons name shape mayBeOmitted fields).readMember name (none, fields.unread)
                  (byte ':' :: shape.encode value ++ rest) =
                .ok ((some value, fields.unread), rest) := by
            intro rest hrest
            simp only [Fields.readMember, if_true, List.cons_append, read_colon_append, ok_bind,
              shape.read_encode hshape value rest hrest]
            rfl
          simp only [Fields.members, Fields.written, hnull, Bool.false_eq_true, if_false]
          exact .cons (List.mem_cons_self ..) hread (hmembers.skip_field hname (some value))

end

/-- A whole document is read as the value that it was written for. -/
theorem Shape.decode_encode {shape : Shape} (h : shape.isUnambiguous = true) (value : shape.Value) :
    shape.decode (shape.encode value) = .ok value := by
  have hread := shape.read_encode h value [] nofun
  rw [List.append_nil] at hread
  simp [Shape.decode, hread, skipBlanks, pure, Except.pure]

namespace Codec

/-- Reading gives back what was written of a type whose shape is unambiguous. -/
theorem decode_encode (codec : Codec α) (h : codec.shape.isUnambiguous = true) (a : α) :
    codec.decode (codec.encode a) = .ok a := by
  simp [decode, encode, Shape.decode_encode h, Except.map, codec.ofValue_toValue]

end Codec

end CatalogView.Json
