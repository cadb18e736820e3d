import CatalogView.Proofs.Json.Token

/-!
# What documents stand for

`Shape.meaning` is the value of a shape that a JSON value stands for, without any regard to bytes:
the members of an object fill the slots of a record one after the other, and members of other names
stand for nothing. `Shape.decode_document` says that reading a document gives its meaning.
-/

namespace CatalogView.Json

open CatalogView.Text

/-- The values of a record once all its members have been read. -/
def Fields.closed (fields : Fields) (slots : fields.Slots) : Except Issue fields.Values :=
  (fields.close slots).mapError Mismatch.issue

/-- What a member does to the slots of a record, given by its key. -/
def fillWith {σ : Type} (fillSlot : String → Tree → σ → Except Issue σ) (slots : σ)
    (member : Member Tree) : Except Issue σ := do
  let key ← orOther (text? member.key)
  fillSlot key member.value.item slots

mutual

/-- The value of a shape that a JSON value stands for. -/
def Shape.meaning : (shape : Shape) → Tree → Except Issue shape.Value
  | .text, tree =>
    match tree with
    | .text parts => orOther (text? parts)
    | _ => .error .other
  | .count, tree =>
    match tree with
    | .number numeral => orOther (count? numeral)
    | _ => .error .other
  | .optional inner, tree =>
    match tree with
    | .null => .ok (none : Option inner.Value)
    | tree => do
      let value ← inner.meaning tree
      pure (some value : Option inner.Value)
  | .list element, tree =>
    match tree with
    | .list _ elements => elements.mapM fun part => element.meaning part.item
    | _ => .error .other
  | .record _ fields, tree =>
    match tree with
    | .list _ elements => fields.meaningOfElements elements
    | .object _ members => do
      let slots ← members.foldlM (fillWith fields.fillSlot) fields.unread
      fields.closed slots
    | _ => .error .other

/-- The values of a record that is written as the list of its fields. -/
def Fields.meaningOfElements :
    (fields : Fields) → List (Spaced Tree) → Except Issue fields.Values
  | .nil, [] => .ok ()
  | .nil, _ :: _ => .error .other
  | .cons _ shape mayBeOmitted rest, [] =>
    if mayBeOmitted then do
      let values ← rest.meaningOfElements []
      pure (shape.blank, values)
    else .error .other
  | .cons _ shape _ rest, element :: elements => do
    let value ← shape.meaning element.item
    let values ← rest.meaningOfElements elements
    pure (value, values)

/-- The slots of a record after a member with the given key. -/
def Fields.fillSlot :
    (fields : Fields) → String → Tree → fields.Slots → Except Issue fields.Slots
  | .nil, _, _, _ => .ok ()
  | .cons name shape _ rest, key, tree, (slot, slots) =>
    if key = name then
      match slot with
      | some _ => .error (.repeated name)
      | none => do
        let value ← shape.meaning tree
        pure (some value, slots)
    else do
      let slots ← rest.fillSlot key tree slots
      pure (slot, slots)

end

/-- What a member does to the slots of a record. -/
abbrev Fields.fill (fields : Fields) :
    fields.Slots → Member Tree → Except Issue fields.Slots :=
  fillWith fields.fillSlot

variable {rest : Bytes}

/-! ## Texts and counts -/

/-- A text is read, and any other value refused. -/
theorem read_text_tree (tree : Tree) (gap : Gap) (rest : Bytes) :
    issues (readText (gap.bytes ++ (tree.bytes ++ rest))) =
      withRest rest (Shape.text.meaning tree) := by
  by_cases htext : ∃ parts, tree = .text parts
  · obtain ⟨parts, rfl⟩ := htext
    have hquote : isBlank (byte '"') = false := rfl
    simp only [Tree.bytes, List.cons_append, readText, skip_blanks_gap_cons gap hquote, if_true]
    exact read_string_parts parts rest
  · obtain ⟨b, more, hbytes, hb⟩ := tree.begins
    have hmeaning : Shape.text.meaning tree = .error .other := by
      cases tree with
      | text parts => exact absurd ⟨parts, rfl⟩ htext
      | null | boolean | number | list | object => rfl
    simp only [hbytes, List.cons_append, readText, skip_blanks_gap_cons gap hb.blank,
      if_neg (mt hb.text htext), refuse_issues, hmeaning]
    rfl

/-- A count is read, and any other value refused. -/
theorem read_count_tree (tree : Tree) (gap : Gap) (hrest : EndsNumber rest) :
    issues (readCount (gap.bytes ++ (tree.bytes ++ rest))) =
      withRest rest (Shape.count.meaning tree) := by
  by_cases hnumber : ∃ numeral, tree = .number numeral
  · obtain ⟨numeral, rfl⟩ := hnumber
    exact read_count_numeral numeral gap hrest
  · obtain ⟨b, more, hbytes, hb⟩ := tree.begins
    obtain ⟨hminus, hdigit⟩ := not_or.1 (mt hb.number hnumber)
    have hmeaning : Shape.count.meaning tree = .error .other := by
      cases tree with
      | number numeral => exact absurd ⟨numeral, rfl⟩ hnumber
      | null | boolean | text | list | object => rfl
    simp only [hbytes, List.cons_append, readCount, skip_blanks_gap_cons gap hb.blank,
      if_neg hminus, if_neg hdigit, refuse_issues, hmeaning]
    rfl

/-! ## Lists -/

/-- A list goes on at its next element. -/
theorem next_element_tree (first : Bool) (gap : Gap) (element : Spaced Tree) (rest : Bytes) :
    nextElement first (gap.bytes ++
        ((if first then elementBytes element else byte ',' :: elementBytes element) ++ rest)) =
      .ok (true, element.item.bytes ++ (element.after.bytes ++ rest)) := by
  obtain ⟨before, value, after⟩ := element
  obtain ⟨b, more, hbytes, hb⟩ := value.begins
  have hcomma : isBlank (byte ',') = false := rfl
  have hclose : byte ',' ≠ byte ']' := by decide
  cases first with
  | true =>
      simp only [if_true, elementBytes, List.append_assoc, nextElement, skip_blanks_gap, hbytes,
        List.cons_append, skip_blanks_cons hb.blank, if_neg hb.close]
  | false =>
      simp only [Bool.false_eq_true, if_false, elementBytes, List.cons_append, List.append_assoc,
        nextElement, skip_blanks_gap_cons gap hcomma, if_neg hclose, if_true, skip_blanks_gap,
        hbytes, skip_blanks_cons hb.blank, if_neg hb.close]

/-- A list ends at its closing bracket. -/
theorem next_element_close (first : Bool) (gap : Gap) (rest : Bytes) :
    nextElement first (gap.bytes ++ byte ']' :: rest) = .ok (false, byte ']' :: rest) := by
  have hclose : isBlank (byte ']') = false := rfl
  simp only [nextElement, skip_blanks_gap_cons gap hclose, if_true]

/-- Behind an element comes no more of a number. -/
theorem ends_number_elements (gap : Gap) (elements : List (Spaced Tree)) (rest : Bytes) :
    EndsNumber (gap.bytes ++
      (separateAfter false (elementsBytes elements) ++ byte ']' :: rest)) :=
  (ends_number_parts .list (elementsBytes elements) rest).gap gap

section

variable {α : Type} {element : Reader α} {meaning : Tree → Except Issue α}

/-- The elements of a list are read up to its closing bracket. -/
theorem elements_from_trees
    (hread : ∀ (tree : Tree) (gap : Gap) (rest : Bytes), EndsNumber rest →
      issues (element (gap.bytes ++ (tree.bytes ++ rest))) = withRest rest (meaning tree))
    (elements : List (Spaced Tree)) {fuel : Nat} (hfuel : elements.length < fuel) (first : Bool)
    (gap : Gap) (rest : Bytes) :
    issues (elementsFrom element fuel first (gap.bytes ++
        (separateAfter first (elementsBytes elements) ++ byte ']' :: rest))) =
      withRest (byte ']' :: rest) (elements.mapM fun part => meaning part.item) := by
  induction elements generalizing fuel first gap with
  | nil =>
      obtain ⟨fuel, rfl⟩ := Nat.exists_eq_add_of_lt hfuel
      simp only [elementsFrom, elementsBytes, separateAfter, List.nil_append, next_element_close,
        ok_bind]
      rfl
  | cons part elements ih =>
      cases fuel with
      | zero => exact absurd hfuel (Nat.not_lt_zero _)
      | succ fuel =>
          have hvalue := hread part.item .none _ (ends_number_elements part.after elements rest)
          have hrest := ih (Nat.lt_of_succ_lt_succ hfuel) false part.after
          simp only [Gap.none, List.nil_append] at hvalue
          simp only [elementsFrom, elementsBytes, separateAfter, List.append_assoc,
            next_element_tree, ok_bind, if_true, issues_bind, hvalue, withRest_bind, hrest,
            List.mapM_cons]
          cases meaning part.item <;> cases elements.mapM (fun part => meaning part.item) <;> rfl

/-- A list ends where its closing bracket is read. -/
theorem end_list_gap (gap : Gap) (rest : Bytes) :
    endList (gap.bytes ++ byte ']' :: rest) = .ok rest := by
  have hclose : isBlank (byte ']') = false := rfl
  simp only [endList, skip_blanks_gap_cons gap hclose, if_true]

/-- A list is read, and any other value refused. -/
theorem read_list_tree
    (hread : ∀ (tree : Tree) (gap : Gap) (rest : Bytes), EndsNumber rest →
      issues (element (gap.bytes ++ (tree.bytes ++ rest))) = withRest rest (meaning tree))
    (tree : Tree) (gap : Gap) (rest : Bytes) :
    issues (readList element (gap.bytes ++ (tree.bytes ++ rest))) =
      withRest rest (match tree with
        | .list _ elements => elements.mapM fun part => meaning part.item
        | _ => .error .other) := by
  by_cases hlist : ∃ inside elements, tree = .list inside elements
  · obtain ⟨inside, elements, rfl⟩ := hlist
    have hopen : isBlank (byte '[') = false := rfl
    have hfuel : elements.length <
        (inside.bytes ++ (separate (elementsBytes elements) ++ byte ']' :: rest)).length + 1 := by
      have hlength := length_le_elements elements
      simp only [List.length_append]
      omega
    have helements := elements_from_trees hread elements hfuel true inside rest
    rw [← separate_eq] at helements
    have hend := end_list_gap .none rest
    simp only [Gap.none, List.nil_append] at hend
    simp only [Tree.bytes, List.cons_append, List.append_assoc, List.nil_append, readList,
      skip_blanks_gap_cons gap hopen, if_true, issues_bind, helements, withRest_bind, hend,
      issues_ok]
    cases elements.mapM (fun part => meaning part.item) <;> rfl
  · obtain ⟨b, more, hbytes, hb⟩ := tree.begins
    simp only [hbytes, List.cons_append, readList, skip_blanks_gap_cons gap hb.blank,
      if_neg (mt hb.list hlist), refuse_issues]
    cases tree with
    | list inside elements => exact absurd ⟨inside, elements, rfl⟩ hlist
    | null | boolean | number | text | object => rfl

end

/-! ## Objects -/

/-- An object goes on at its next member. -/
theorem next_key_tree (first : Bool) (gap : Gap) (member : Member Tree) (rest : Bytes) :
    nextKey first (gap.bytes ++
        ((if first then memberBytes member else byte ',' :: memberBytes member) ++ rest)) =
      .ok (true, closedBytes member.key ++
        (member.between.bytes ++ byte ':' :: (elementBytes member.value ++ rest))) := by
  obtain ⟨before, key, between, value⟩ := member
  have hquote : isBlank (byte '"') = false := rfl
  have hcomma : isBlank (byte ',') = false := rfl
  have hopen : byte '"' ≠ byte '\x7d' := by decide
  have hnext : byte ',' ≠ byte '\x7d' := by decide
  cases first with
  | true =>
      simp only [if_true, memberBytes, List.append_assoc, List.cons_append, nextKey,
        skip_blanks_gap, skip_blanks_cons hquote, if_neg hopen]
  | false =>
      simp only [Bool.false_eq_true, if_false, memberBytes, List.cons_append, List.append_assoc,
        nextKey, skip_blanks_gap_cons gap hcomma, if_neg hnext, if_true, skip_blanks_gap,
        skip_blanks_cons hquote]

/-- An object ends at its closing bracket. -/
theorem next_key_close (first : Bool) (gap : Gap) (rest : Bytes) :
    nextKey first (gap.bytes ++ byte '\x7d' :: rest) = .ok (false, byte '\x7d' :: rest) := by
  have hclose : isBlank (byte '\x7d') = false := rfl
  simp only [nextKey, skip_blanks_gap_cons gap hclose, if_true]

/-- Behind a member comes no more of a number. -/
theorem ends_number_members (gap : Gap) (members : List (Member Tree)) (rest : Bytes) :
    EndsNumber (gap.bytes ++
      (separateAfter false (membersBytes members) ++ byte '\x7d' :: rest)) :=
  (ends_number_parts .object (membersBytes members) rest).gap gap

/-- The colon after a key is read. -/
theorem read_colon_gap (gap : Gap) (rest : Bytes) :
    readColon (gap.bytes ++ byte ':' :: rest) = .ok rest := by
  have hcolon : isBlank (byte ':') = false := rfl
  simp only [readColon, skip_blanks_gap_cons gap hcolon, if_true]

/-- The members of an object are read up to its closing bracket, each of them from after its key. -/
theorem members_from_trees {σ : Type} {member : String → σ → Reader σ}
    {fillSlot : String → Tree → σ → Except Issue σ}
    (hread : ∀ (key : String) (tree : Tree) (slots : σ) (between gap : Gap) (rest : Bytes),
      EndsNumber rest →
        issues (member key slots
            (between.bytes ++ byte ':' :: (gap.bytes ++ (tree.bytes ++ rest)))) =
          withRest rest (fillSlot key tree slots))
    (members : List (Member Tree)) {fuel : Nat} (hfuel : members.length < fuel) (first : Bool)
    (slots : σ) (gap : Gap) (rest : Bytes) :
    issues (membersFrom member fuel first slots (gap.bytes ++
        (separateAfter first (membersBytes members) ++ byte '\x7d' :: rest))) =
      withRest (byte '\x7d' :: rest) (members.foldlM (fillWith fillSlot) slots) := by
  induction members generalizing fuel first slots gap with
  | nil =>
      obtain ⟨fuel, rfl⟩ := Nat.exists_eq_add_of_lt hfuel
      simp only [membersFrom, membersBytes, separateAfter, List.nil_append, next_key_close, ok_bind]
      rfl
  | cons part members ih =>
      cases fuel with
      | zero => exact absurd hfuel (Nat.not_lt_zero _)
      | succ fuel =>
          obtain ⟨before, key, between, ⟨inner, value, after⟩⟩ := part
          have hends := ends_number_members after members rest
          have hrest := ih (Nat.lt_of_succ_lt_succ hfuel) false
          simp only [membersFrom, membersBytes, separateAfter, List.append_assoc, next_key_tree,
            ok_bind, if_true, issues_bind, read_string_parts, withRest_bind, elementBytes,
            hread _ value _ between inner _ hends, hrest, List.foldlM_cons, fillWith]
          cases orOther (text? key) with
          | error issue => rfl
          | ok name =>
              simp only [ok_bind]
              cases fillSlot name value slots <;> rfl

/-! ## Records -/

/-- Reads a record from the list of its fields, with its closing bracket. -/
def Fields.readWhole (fields : Fields) (name : String) (size index : Nat) :
    Reader fields.Values := fun bytes => do
  let (values, rest) ← fields.readElements name size index bytes
  let rest ← endList rest
  pure (values, rest)

/-- The first field is read from the next element. -/
theorem Fields.read_whole_cons (field : String) (shape : Shape) (mayBeOmitted : Bool)
    (fields : Fields) (name : String) (size index : Nat) (bytes : Bytes) :
    (Fields.cons field shape mayBeOmitted fields).readWhole name size index bytes = (do
      let (goesOn, bytes) ← nextElement (index == 0) bytes
      let (value, bytes) ←
        if goesOn then shape.read bytes
        else if mayBeOmitted then .ok (shape.blank, bytes)
        else
          .error ⟨.mismatch (.wrongLength index name size), (pastClose (byte ']') bytes).length⟩
      let (values, rest) ← fields.readWhole name size (index + 1) bytes
      pure ((value, values), rest)) := by
  simp only [Fields.readWhole, Fields.readElements]
  cases nextElement (index == 0) bytes with
  | error fault => rfl
  | ok next =>
      obtain ⟨goesOn, bytes⟩ := next
      cases goesOn <;> cases mayBeOmitted <;>
        simp only [ok_bind, bind_assoc, pure_bind, if_true, if_false, Bool.false_eq_true,
          error_bind]

/-- A list ends at nothing but its closing bracket. -/
theorem end_list_of_ne {bytes after : Bytes} {b : UInt8} (h : skipBlanks bytes = b :: after)
    (hne : b ≠ byte ']') : issues (endList bytes) = .error .other := by
  simp only [endList, h, if_neg hne]
  split
  · split <;> rfl
  · rfl

/-- A list does not end where there is one more element. -/
theorem end_list_element (first : Bool) (gap : Gap) (element : Spaced Tree) (rest : Bytes) :
    issues (endList (gap.bytes ++
        ((if first then elementBytes element else byte ',' :: elementBytes element) ++ rest))) =
      .error .other := by
  obtain ⟨before, value, after⟩ := element
  obtain ⟨b, more, hbytes, hb⟩ := value.begins
  cases first with
  | true =>
      have hnext : skipBlanks (gap.bytes ++ (elementBytes ⟨before, value, after⟩ ++ rest)) =
          b :: (more ++ (after.bytes ++ rest)) := by
        simp only [elementBytes, List.append_assoc, skip_blanks_gap, hbytes, List.cons_append,
          skip_blanks_cons hb.blank]
      exact end_list_of_ne hnext hb.close
  | false =>
      exact end_list_of_ne (skip_blanks_gap_cons gap (b := byte ',') rfl _) (by decide)

/-- What an option stands for that is not null. -/
theorem Shape.meaning_optional (inner : Shape) {tree : Tree} (h : tree ≠ .null) :
    (Shape.optional inner).meaning tree = (do
      let value ← inner.meaning tree
      pure (some value : Option inner.Value)) := by
  cases tree with
  | null => exact absurd rfl h
  | boolean | number | text | list | object => rfl

/-- What a list stands for. -/
theorem Shape.meaning_list (element : Shape) (tree : Tree) :
    (Shape.list element).meaning tree = match tree with
      | .list _ elements => elements.mapM fun part => element.meaning part.item
      | _ => .error .other := by
  cases tree <;> rfl

/-- A value that may be null is read if it is one otherwise. -/
theorem read_optional_tree {inner : Shape}
    (hread : ∀ (tree : Tree) (gap : Gap) (rest : Bytes), EndsNumber rest →
      issues (inner.read (gap.bytes ++ (tree.bytes ++ rest))) = withRest rest (inner.meaning tree))
    (tree : Tree) (gap : Gap) (hrest : EndsNumber rest) :
    issues ((Shape.optional inner).read (gap.bytes ++ (tree.bytes ++ rest))) =
      withRest rest ((Shape.optional inner).meaning tree) := by
  by_cases hnull : tree = .null
  · subst hnull
    have hn : isBlank (byte 'n') = false := rfl
    simp only [Shape.read, Tree.bytes, ascii, List.map_cons, List.map_nil, List.cons_append,
      List.nil_append, skip_blanks_gap_cons gap hn, if_true, literal, ok_bind]
    rfl
  · obtain ⟨b, more, hbytes, hb⟩ := tree.begins
    have hvalue := hread tree .none rest hrest
    simp only [Gap.none, List.nil_append, hbytes, List.cons_append] at hvalue
    rw [Shape.meaning_optional inner hnull]
    simp only [Shape.read, hbytes, List.cons_append, skip_blanks_gap_cons gap hb.blank,
      if_neg (mt hb.null hnull), issues_bind, hvalue, withRest_bind]
    cases inner.meaning tree <;> rfl

/-- What a record stands for that is written as an object. -/
theorem Shape.meaning_object (name : String) (fields : Fields) (inside : Gap)
    (members : List (Member Tree)) :
    (Shape.record name fields).meaning (.object inside members) =
      members.foldlM fields.fill fields.unread >>= fields.closed := rfl

section

variable {name : String} {fields : Fields}

/-- A record is read from the list of its fields. -/
theorem read_record_list {elements : List (Spaced Tree)} {inside : Gap}
    (helements : issues (fields.readWhole name fields.size 0 (inside.bytes ++
        (separateAfter true (elementsBytes elements) ++ byte ']' :: rest))) =
      withRest rest (fields.meaningOfElements elements)) (gap : Gap) :
    issues ((Shape.record name fields).read
        (gap.bytes ++ ((Tree.list inside elements).bytes ++ rest))) =
      withRest rest ((Shape.record name fields).meaning (.list inside elements)) := by
  have hopen : isBlank (byte '[') = false := rfl
  simp only [Shape.read, Tree.bytes, List.cons_append, List.append_assoc, List.nil_append,
    skip_blanks_gap_cons gap hopen, if_true, separate_eq]
  exact helements

/-- A record is read from an object. -/
theorem read_record_object
    (hmember : ∀ (key : String) (tree : Tree) (slots : fields.Slots) (between gap : Gap)
      (rest : Bytes), EndsNumber rest →
        issues (fields.readMember key slots
            (between.bytes ++ byte ':' :: (gap.bytes ++ (tree.bytes ++ rest)))) =
          withRest rest (fields.fillSlot key tree slots))
    (inside : Gap) (members : List (Member Tree)) (gap : Gap) (rest : Bytes) :
    issues ((Shape.record name fields).read
        (gap.bytes ++ ((Tree.object inside members).bytes ++ rest))) =
      withRest rest ((Shape.record name fields).meaning (.object inside members)) := by
  have hopen : isBlank (byte '\x7b') = false := rfl
  have hne : byte '\x7b' ≠ byte '[' := by decide
  have hfuel : members.length <
      (inside.bytes ++ (separate (membersBytes members) ++ byte '\x7d' :: rest)).length + 1 := by
    have hlength := length_le_members members
    simp only [List.length_append]
    omega
  have hslots := members_from_trees hmember members hfuel true fields.unread inside rest
  rw [← separate_eq] at hslots
  rw [Shape.meaning_object]
  simp only [Shape.read, Tree.bytes, List.cons_append, List.append_assoc, List.nil_append,
    skip_blanks_gap_cons gap hopen, if_neg hne, if_true, issues_bind, hslots, withRest_bind]
  cases members.foldlM fields.fill fields.unread with
  | error issue => rfl
  | ok slots =>
      simp only [ok_bind, Fields.closed]
      cases fields.close slots with
      | error mismatch => rfl
      | ok values =>
          simp only [end_object_close, ok_bind]
          rfl

/-- A record is read from nothing else. -/
theorem read_record_other {tree : Tree} (hlist : ¬ ∃ inside elements, tree = .list inside elements)
    (hobject : ¬ ∃ inside members, tree = .object inside members) (gap : Gap) (rest : Bytes) :
    issues ((Shape.record name fields).read (gap.bytes ++ (tree.bytes ++ rest))) =
      withRest rest ((Shape.record name fields).meaning tree) := by
  obtain ⟨b, more, hbytes, hb⟩ := tree.begins
  have hmeaning : (Shape.record name fields).meaning tree = .error .other := by
    cases tree with
    | list inside elements => exact absurd ⟨inside, elements, rfl⟩ hlist
    | object inside members => exact absurd ⟨inside, members, rfl⟩ hobject
    | null | boolean | number | text => rfl
  rw [hmeaning]
  simp only [Shape.read, hbytes, List.cons_append, skip_blanks_gap_cons gap hb.blank,
    if_neg (mt hb.list hlist), if_neg (mt hb.object hobject), refuse_issues]
  rfl

end

mutual

/-- Every value is read as what it stands for, whatever stands before and behind it. -/
theorem Shape.read_tree : (shape : Shape) → (tree : Tree) → (gap : Gap) → (rest : Bytes) →
    EndsNumber rest →
    issues (shape.read (gap.bytes ++ (tree.bytes ++ rest))) = withRest rest (shape.meaning tree)
  | .text, tree, gap, rest, _ => read_text_tree tree gap rest
  | .count, tree, gap, rest, hrest => read_count_tree tree gap hrest
  | .optional inner, tree, gap, rest, hrest => read_optional_tree inner.read_tree tree gap hrest
  | .list element, tree, gap, rest, _ => by
      have h := read_list_tree element.read_tree tree gap rest
      rw [Shape.meaning_list]
      exact h
  | .record name fields, tree, gap, rest, _ => by
      by_cases hlist : ∃ inside elements, tree = .list inside elements
      · obtain ⟨inside, elements, rfl⟩ := hlist
        exact read_record_list (fields.read_elements name fields.size 0 elements inside rest) gap
      · by_cases hobject : ∃ inside members, tree = .object inside members
        · obtain ⟨inside, members, rfl⟩ := hobject
          exact read_record_object fields.read_member inside members gap rest
        · exact read_record_other hlist hobject gap rest

/-- The elements of a list are read as the fields of a record. -/
theorem Fields.read_elements : (fields : Fields) → (name : String) → (size index : Nat) →
    (elements : List (Spaced Tree)) → (gap : Gap) → (rest : Bytes) →
    issues (fields.readWhole name size index (gap.bytes ++
        (separateAfter (index == 0) (elementsBytes elements) ++ byte ']' :: rest))) =
      withRest rest (fields.meaningOfElements elements)
  | .nil, name, size, index, elements, gap, rest => by
      cases elements with
      | nil =>
          simp only [Fields.readWhole, Fields.readElements, ok_bind, elementsBytes, separateAfter,
            List.nil_append, end_list_gap]
          rfl
      | cons element elements =>
          simp only [Fields.readWhole, Fields.readElements, ok_bind, elementsBytes, separateAfter,
            List.append_assoc, issues_bind, end_list_element, error_bind]
          rfl
  | .cons field shape mayBeOmitted fields, name, size, index, elements, gap, rest => by
      rw [Fields.read_whole_cons]
      cases elements with
      | nil =>
          have hrest := fields.read_elements name size (index + 1) [] .none rest
          simp only [Gap.none, List.nil_append, elementsBytes, separateAfter] at hrest
          simp only [elementsBytes, separateAfter, List.nil_append, next_element_close, ok_bind,
            Bool.false_eq_true, if_false, Fields.meaningOfElements]
          cases mayBeOmitted with
          | false => rfl
          | true =>
              simp only [if_true, issues_bind, hrest, withRest_bind]
              cases fields.meaningOfElements [] <;> rfl
      | cons element elements =>
          have hends := ends_number_elements element.after elements rest
          have hvalue := shape.read_tree element.item .none _ hends
          have hrest := fields.read_elements name size (index + 1) elements element.after rest
          have hfirst : (index + 1 == 0) = false := rfl
          simp only [Gap.none, List.nil_append] at hvalue
          rw [hfirst] at hrest
          simp only [elementsBytes, separateAfter, List.append_assoc, next_element_tree, ok_bind,
            if_true, issues_bind, hvalue, withRest_bind, hrest, Fields.meaningOfElements]
          cases shape.meaning element.item with
          | error issue => rfl
          | ok value => cases fields.meaningOfElements elements <;> rfl

/-- A member is read into the slot of its name. -/
theorem Fields.read_member : (fields : Fields) → (key : String) → (tree : Tree) →
    (slots : fields.Slots) → (between gap : Gap) → (rest : Bytes) → EndsNumber rest →
    issues (fields.readMember key slots
        (between.bytes ++ byte ':' :: (gap.bytes ++ (tree.bytes ++ rest)))) =
      withRest rest (fields.fillSlot key tree slots)
  | .nil, key, tree, slots, between, gap, rest, hrest => by
      simp only [Fields.readMember, read_colon_gap, ok_bind, skip_value_tree tree gap hrest]
      rfl
  | .cons name shape mayBeOmitted fields, key, tree, (slot, slots), between, gap, rest, hrest => by
      by_cases hkey : key = name
      · cases slot with
        | some value =>
            simp only [Fields.readMember, Fields.fillSlot, if_pos hkey]
            rfl
        | none =>
            have hvalue := shape.read_tree tree gap rest hrest
            simp only [Fields.readMember, Fields.fillSlot, if_pos hkey, read_colon_gap, ok_bind,
              issues_bind, hvalue, withRest_bind]
            cases shape.meaning tree <;> rfl
      · have hslots := fields.read_member key tree slots between gap rest hrest
        simp only [Fields.readMember, Fields.fillSlot, if_neg hkey, issues_bind, hslots,
          withRest_bind]
        cases fields.fillSlot key tree slots <;> rfl

end

/-- A document is read as what it stands for. -/
theorem Shape.decode_document (shape : Shape) (document : Document) :
    issues (shape.decode document.bytes) = shape.meaning document.item := by
  obtain ⟨before, tree, after⟩ := document
  have hnothing : EndsNumber ([] : Bytes) := nofun
  have hread := shape.read_tree tree before after.bytes (by simpa using hnothing.gap after)
  have hblank := skip_blanks_gap after []
  rw [List.append_nil] at hblank
  simp only [Shape.decode, Spaced.bytes, elementBytes, issues_bind, hread, withRest_bind, hblank]
  cases shape.meaning tree <;> rfl

end CatalogView.Json
