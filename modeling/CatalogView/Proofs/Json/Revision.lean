import CatalogView.Proofs.Json.Fields
import CatalogView.Proofs.Json.Grammar
import CatalogView.Proofs.Json.Wire

/-!
# Documents that say the same

`Shape.Rewords` says when a value is written in another way for the readers of a shape: members of
an object may stand in another order, there may be more of them with unknown names, and a field that
is null may be written or left out, in the value and in every record within it. `Shape.Spoils` says
when a field of a record is repeated, or one is left out that must be there.
`wire_reads_known_fields` says that nothing but documents is read, that none of them is read as
anything else after the former, and that none is read after the latter.
-/

namespace CatalogView.Json

open CatalogView.Text

/-- The shape of the field at a place of a record. -/
def Fields.shapeAt? : Fields → Nat → Option Shape
  | .nil, _ => none
  | .cons _ shape _ _, 0 => some shape
  | .cons _ _ _ rest, index + 1 => rest.shapeAt? index

/-- Something with other contents within the same blanks. -/
def Spaced.withItem {α : Type} (spaced : Spaced α) (item : α) : Spaced α :=
  { spaced with item }

/-- A member with another value under the same key. -/
def Member.withItem {α : Type} (member : Member α) (item : α) : Member α :=
  { member with value := member.value.withItem item }

/-- The second value is the first one, written in another way for readers of the shape. -/
inductive Shape.Rewords : Shape → Tree → Tree → Prop where
  | refl (shape : Shape) (tree : Tree) : Rewords shape tree tree
  | trans {shape : Shape} {tree between other : Tree} :
      Rewords shape tree between → Rewords shape between other → Rewords shape tree other
  /-- The members of an object are put into another order. -/
  | permute {name : String} {fields : Fields} {inside : Gap} {members others : List (Member Tree)}
      (hperm : members.Perm others) :
      Rewords (.record name fields) (.object inside members) (.object inside others)
  /-- A member with an unknown name is added. -/
  | addUnknown {name key : String} {fields : Fields} {inside : Gap}
      {front back : List (Member Tree)} {member : Member Tree}
      (hkey : text? member.key = some key) (hunknown : key ∉ fields.names) :
      Rewords (.record name fields) (.object inside (front ++ back))
        (.object inside (front ++ member :: back))
  /-- A field that is absent is written as null. -/
  | writeNull {name key : String} {fields : Fields} {inner : Shape} {mayBeOmitted : Bool}
      {inside : Gap} {front back : List (Member Tree)} {member : Member Tree}
      (field : fields.At key (.optional inner) mayBeOmitted)
      (hkey : text? member.key = some key) (hnull : member.value.item = .null)
      (habsent : ∀ other ∈ front ++ back, text? other.key ≠ some key) :
      Rewords (.record name fields) (.object inside (front ++ back))
        (.object inside (front ++ member :: back))
  /-- A field that is null is left out. -/
  | omitNull {name key : String} {fields : Fields} {inner : Shape} {mayBeOmitted : Bool}
      {inside : Gap} {front back : List (Member Tree)} {member : Member Tree}
      (field : fields.At key (.optional inner) mayBeOmitted)
      (hkey : text? member.key = some key) (hnull : member.value.item = .null) :
      Rewords (.record name fields) (.object inside (front ++ member :: back))
        (.object inside (front ++ back))
  /-- The value of a member is written in another way. -/
  | member {name key : String} {fields : Fields} {shape : Shape} {mayBeOmitted : Bool}
      {inside : Gap} {front back : List (Member Tree)} {member : Member Tree} {tree : Tree}
      (field : fields.At key shape mayBeOmitted) (hkey : text? member.key = some key)
      (h : Rewords shape member.value.item tree) :
      Rewords (.record name fields) (.object inside (front ++ member :: back))
        (.object inside (front ++ member.withItem tree :: back))
  /-- A field of a record that is written as a list is written in another way. -/
  | field {name : String} {fields : Fields} {shape : Shape} {inside : Gap}
      {front back : List (Spaced Tree)} {element : Spaced Tree} {tree : Tree}
      (hshape : fields.shapeAt? front.length = some shape)
      (h : Rewords shape element.item tree) :
      Rewords (.record name fields) (.list inside (front ++ element :: back))
        (.list inside (front ++ element.withItem tree :: back))
  /-- An element of a list is written in another way. -/
  | element {shape : Shape} {inside : Gap} {front back : List (Spaced Tree)}
      {element : Spaced Tree} {tree : Tree} (h : Rewords shape element.item tree) :
      Rewords (.list shape) (.list inside (front ++ element :: back))
        (.list inside (front ++ element.withItem tree :: back))
  /-- A value is written in another way that may be null and is not. -/
  | optional {inner : Shape} {tree other : Tree} (h : Rewords inner tree other) :
      Rewords (.optional inner) tree other

/-- In the second value a field of a record is repeated that the first one has, or one is missing
that must be there. -/
inductive Shape.Spoils : Shape → Mismatch → Tree → Tree → Prop where
  /-- A member is added with the name of a field that the object has. It stands behind the other
  one, or it has the same value or any other that can be read. -/
  | repeated {name key : String} {fields : Fields} {shape : Shape} {mayBeOmitted : Bool}
      {inside : Gap} {front back : List (Member Tree)} {first second : Member Tree}
      (field : fields.At key shape mayBeOmitted) (hmem : first ∈ front ++ back)
      (hfirst : text? first.key = some key) (hsecond : text? second.key = some key)
      (hsecondValue : first ∈ front ∨ second.value.item = first.value.item ∨
        ∃ value, shape.meaning second.value.item = .ok value) :
      Spoils (.record name fields) (.repeatedField key) (.object inside (front ++ back))
        (.object inside (front ++ second :: back))
  /-- A member is left out with the name of a field that must be there. -/
  | missing {name key : String} {fields : Fields} {shape : Shape} {inside : Gap}
      {front back : List (Member Tree)} {member : Member Tree}
      (field : fields.At key shape false) (hnull : shape.allowsNull = false)
      (hkey : text? member.key = some key) :
      Spoils (.record name fields) (.missingField key)
        (.object inside (front ++ member :: back)) (.object inside (front ++ back))
  /-- The value of a member is spoilt. -/
  | member {name key : String} {fields : Fields} {shape : Shape} {mayBeOmitted : Bool}
      {mismatch : Mismatch} {inside : Gap} {front back : List (Member Tree)} {member : Member Tree}
      {tree : Tree} (field : fields.At key shape mayBeOmitted)
      (hkey : text? member.key = some key) (h : Spoils shape mismatch member.value.item tree) :
      Spoils (.record name fields) mismatch (.object inside (front ++ member :: back))
        (.object inside (front ++ member.withItem tree :: back))
  /-- A field of a record is spoilt that is written as a list. -/
  | field {name : String} {fields : Fields} {shape : Shape} {mismatch : Mismatch} {inside : Gap}
      {front back : List (Spaced Tree)} {element : Spaced Tree} {tree : Tree}
      (hshape : fields.shapeAt? front.length = some shape)
      (h : Spoils shape mismatch element.item tree) :
      Spoils (.record name fields) mismatch (.list inside (front ++ element :: back))
        (.list inside (front ++ element.withItem tree :: back))
  /-- An element of a list is spoilt. -/
  | element {shape : Shape} {mismatch : Mismatch} {inside : Gap} {front back : List (Spaced Tree)}
      {element : Spaced Tree} {tree : Tree} (h : Spoils shape mismatch element.item tree) :
      Spoils (.list shape) mismatch (.list inside (front ++ element :: back))
        (.list inside (front ++ element.withItem tree :: back))
  /-- A value is spoilt that may be null and is not. -/
  | optional {inner : Shape} {mismatch : Mismatch} {tree other : Tree}
      (h : Spoils inner mismatch tree other) : Spoils (.optional inner) mismatch tree other

/-! ## One part replaced -/

section

variable {fields : Fields} {name : String} {shape : Shape} {mayBeOmitted : Bool}

/-- What becomes of an object depends on a member of a field only through its value. -/
theorem fold_through (field : fields.At name shape mayBeOmitted) {front back : List (Member Tree)}
    {member : Member Tree} (hname : text? member.key = some name) {slots last : fields.Slots}
    (h : (front ++ member :: back).foldlM fields.fill slots = .ok last) :
    ∃ next : shape.Value → Except Issue fields.Slots, ∀ tree,
      (front ++ member.withItem tree :: back).foldlM fields.fill slots =
        shape.meaning tree >>= next := by
  rw [List.foldlM_append] at h
  obtain ⟨mid, hmid, h⟩ := exists_of_bind_eq_ok h
  rw [List.foldlM_cons] at h
  obtain ⟨after, hafter, -⟩ := exists_of_bind_eq_ok h
  have hslot := (field.get_of_fill_named hname hafter).1
  refine ⟨fun value => back.foldlM fields.fill (field.set value mid), fun tree => ?_⟩
  have hother : text? (member.withItem tree).key = some name := hname
  have hfill : fields.fill mid (member.withItem tree) =
      shape.meaning tree >>= fun value => pure (field.set value mid) := by
    rw [Fields.fill_eq hother, field.fill_slot, hslot]
    rfl
  rw [List.foldlM_append, hmid, ok_bind, List.foldlM_cons, hfill, bind_assoc]
  simp only [pure_bind]

/-- What becomes of a list depends on an element only through its value. -/
theorem list_through {front back : List (Spaced Tree)} {element : Spaced Tree}
    {values : List shape.Value}
    (h : (front ++ element :: back).mapM (fun part => shape.meaning part.item) = .ok values) :
    ∃ next : shape.Value → Except Issue (List shape.Value), ∀ tree,
      (front ++ element.withItem tree :: back).mapM (fun part => shape.meaning part.item) =
        shape.meaning tree >>= next := by
  rw [List.mapM_append] at h
  obtain ⟨before, hbefore, -⟩ := exists_of_bind_eq_ok h
  refine ⟨fun value => do
    let after ← back.mapM fun part => shape.meaning part.item
    pure (before ++ value :: after), fun tree => ?_⟩
  rw [List.mapM_append, hbefore, ok_bind, List.mapM_cons]
  simp only [bind_assoc, pure_bind, Spaced.withItem]

/-- What becomes of a record that is written as a list depends on a field only through its value. -/
theorem elements_through {fields : Fields} {front back : List (Spaced Tree)}
    {element : Spaced Tree} (hshape : fields.shapeAt? front.length = some shape)
    {values : fields.Values}
    (h : fields.meaningOfElements (front ++ element :: back) = .ok values) :
    ∃ next : shape.Value → Except Issue fields.Values, ∀ tree,
      fields.meaningOfElements (front ++ element.withItem tree :: back) =
        shape.meaning tree >>= next := by
  match fields, front with
  | .nil, front => cases hshape
  | .cons name other mayBeOmitted rest, [] =>
      obtain rfl : other = shape := Option.some.inj hshape
      exact ⟨fun value => do
        let values ← rest.meaningOfElements back
        pure (value, values), fun tree => rfl⟩
  | .cons name other mayBeOmitted rest, first :: front =>
      simp only [List.cons_append, Fields.meaningOfElements] at h
      obtain ⟨value, hvalue, h⟩ := exists_of_bind_eq_ok h
      obtain ⟨more, hmore, -⟩ := exists_of_bind_eq_ok h
      have hrest : rest.shapeAt? front.length = some shape := hshape
      obtain ⟨next, hnext⟩ := elements_through hrest hmore
      refine ⟨fun part => do
        let values ← next part
        pure (value, values), fun tree => ?_⟩
      simp only [List.cons_append, Fields.meaningOfElements, hvalue, ok_bind, hnext, bind_assoc]

end

/-! ## Members added and left out -/

section

variable {name key : String} {fields : Fields} {shape inner : Shape} {mayBeOmitted : Bool}
  {front back : List (Member Tree)} {member : Member Tree}

/-- A member can be read last. -/
theorem fold_last {slots last : fields.Slots} :
    (front ++ member :: back).foldlM fields.fill slots = .ok last ↔
      ∃ next, (front ++ back).foldlM fields.fill slots = .ok next ∧
        fields.fill next member = .ok last := by
  have hperm : (front ++ member :: back).Perm ((front ++ back) ++ [member]) :=
    List.perm_middle.trans (List.perm_append_singleton member (front ++ back)).symm
  have hlast : ((front ++ back) ++ [member]).foldlM fields.fill slots =
      (front ++ back).foldlM fields.fill slots >>= fun next => fields.fill next member := by
    rw [List.foldlM_append]
    simp
  constructor
  · intro h
    have h := fill_perm hperm h
    rw [hlast] at h
    exact exists_of_bind_eq_ok h
  · rintro ⟨next, hnext, hmember⟩
    refine fill_perm hperm.symm ?_
    rw [hlast, hnext]
    exact hmember

/-- A field that is absent may be null. -/
theorem closed_of_null (field : fields.At key (.optional inner) mayBeOmitted)
    (hkey : text? member.key = some key) (hnull : member.value.item = .null)
    {slots last : fields.Slots} (h : fields.fill slots member = .ok last) :
    fields.closed last = fields.closed slots := by
  obtain ⟨hslot, value, hvalue, rfl⟩ := field.get_of_fill_named hkey h
  rw [hnull] at hvalue
  obtain rfl : value = (none : Option inner.Value) := by
    cases hvalue
    rfl
  exact field.closed_of_absent rfl rfl hslot

end

/-! ## The meaning of other ways to write a value -/

/-- Null is not written in another way. -/
theorem Shape.Rewords.null_iff {shape : Shape} {tree other : Tree} (h : shape.Rewords tree other) :
    tree = .null ↔ other = .null := by
  induction h with
  | refl => exact Iff.rfl
  | trans _ _ ih ih' => exact ih.trans ih'
  | optional _ ih => exact ih
  | permute | addUnknown | writeNull | omitNull | member | field | element =>
      exact ⟨nofun, nofun⟩

/-- A value means the same in whatever way it is written. -/
theorem Shape.Rewords.meaning {shape : Shape} {tree other : Tree} (h : shape.Rewords tree other)
    {value : shape.Value} (hvalue : shape.meaning tree = .ok value) :
    shape.meaning other = .ok value := by
  induction h with
  | refl => exact hvalue
  | trans _ _ ih ih' => exact ih' (ih hvalue)
  | permute hperm =>
      rw [meaning_object] at hvalue ⊢
      obtain ⟨slots, hslots, hvalue⟩ := exists_of_bind_eq_ok hvalue
      rw [fill_perm hperm hslots]
      exact hvalue
  | addUnknown hkey hunknown =>
      rw [meaning_object] at hvalue ⊢
      obtain ⟨slots, hslots, hvalue⟩ := exists_of_bind_eq_ok hvalue
      have hsame := (Fields.fill_eq hkey slots).trans (Fields.fill_slot_unknown hunknown ..)
      rw [fold_last.2 ⟨slots, hslots, hsame⟩]
      exact hvalue
  | @writeNull _ _ _ _ _ _ _ _ member field hkey hnull habsent =>
      rw [meaning_object] at hvalue ⊢
      obtain ⟨slots, hslots, hvalue⟩ := exists_of_bind_eq_ok hvalue
      have hslot := (field.get_of_fold_other habsent hslots).trans field.get_unread
      obtain ⟨last, hlast⟩ : ∃ last, Fields.fill _ slots member = .ok last := by
        rw [Fields.fill_eq hkey, field.fill_slot, hslot, hnull]
        exact ⟨_, rfl⟩
      rw [fold_last.2 ⟨slots, hslots, hlast⟩, ok_bind, closed_of_null field hkey hnull hlast]
      exact hvalue
  | omitNull field hkey hnull =>
      rw [meaning_object] at hvalue ⊢
      obtain ⟨last, hlast, hvalue⟩ := exists_of_bind_eq_ok hvalue
      obtain ⟨slots, hslots, hfill⟩ := fold_last.1 hlast
      rw [hslots, ok_bind, ← closed_of_null field hkey hnull hfill]
      exact hvalue
  | member field hkey _ ih =>
      rw [meaning_object] at hvalue ⊢
      obtain ⟨slots, hslots, hvalue⟩ := exists_of_bind_eq_ok hvalue
      obtain ⟨next, hnext⟩ := fold_through field hkey hslots
      obtain ⟨part, hpart, hrest⟩ := exists_of_bind_eq_ok ((hnext _).symm.trans hslots)
      rw [hnext, ih hpart, ok_bind, hrest]
      exact hvalue
  | field hshape _ ih =>
      obtain ⟨next, hnext⟩ := elements_through hshape hvalue
      obtain ⟨part, hpart, hrest⟩ := exists_of_bind_eq_ok ((hnext _).symm.trans hvalue)
      refine (hnext _).trans ?_
      rw [ih hpart]
      exact hrest
  | element _ ih =>
      obtain ⟨next, hnext⟩ := list_through hvalue
      obtain ⟨part, hpart, hrest⟩ := exists_of_bind_eq_ok ((hnext _).symm.trans hvalue)
      refine (hnext _).trans ?_
      rw [ih hpart]
      exact hrest
  | @optional inner tree other h ih =>
      by_cases hnull : tree = .null
      · rw [h.null_iff.1 hnull]
        rw [hnull] at hvalue
        exact hvalue
      · rw [meaning_optional inner hnull] at hvalue
        rw [meaning_optional inner (mt h.null_iff.2 hnull)]
        obtain ⟨part, hpart, hvalue⟩ := exists_of_bind_eq_ok hvalue
        rw [ih hpart]
        exact hvalue

/-! ## The issues of values that are spoilt -/

/-- Null is not spoilt, and does not spoil. -/
theorem Shape.Spoils.ne_null {shape : Shape} {mismatch : Mismatch} {tree other : Tree}
    (h : shape.Spoils mismatch tree other) : tree ≠ .null ∧ other ≠ .null := by
  induction h with
  | optional _ ih => exact ih
  | repeated | missing | member | field | element => exact ⟨nofun, nofun⟩

/-- A second member of a name is refused behind the first one. -/
theorem fold_repeated {fields : Fields} {key : String} {shape : Shape} {mayBeOmitted : Bool}
    (field : fields.At key shape mayBeOmitted) {front : List (Member Tree)}
    (back : List (Member Tree)) {first second : Member Tree} (hmem : first ∈ front)
    (hfirst : text? first.key = some key)
    (hsecond : text? second.key = some key) {slots mid : fields.Slots}
    (hfront : front.foldlM fields.fill slots = .ok mid) :
    (front ++ second :: back).foldlM fields.fill slots = .error (.repeated key) := by
  obtain ⟨value, hslot⟩ := field.get_of_fold_named hmem hfirst hfront
  rw [List.foldlM_append, hfront, ok_bind, List.foldlM_cons, Fields.fill_eq hsecond,
    field.fill_slot, hslot, error_bind]

/-- A value that is spoilt has the issue. -/
theorem Shape.Spoils.meaning {shape : Shape} {mismatch : Mismatch} {tree other : Tree}
    (h : shape.Spoils mismatch tree other) {value : shape.Value}
    (hvalue : shape.meaning tree = .ok value) : shape.meaning other = .error mismatch.issue := by
  induction h with
  | @repeated _ key fields _ _ _ front back first second field hmem hfirst hsecond hsecondValue =>
      rw [meaning_object] at hvalue ⊢
      obtain ⟨slots, hslots, -⟩ := exists_of_bind_eq_ok hvalue
      suffices hfold : (front ++ second :: back).foldlM fields.fill fields.unread =
          .error (.repeated key) by
        rw [hfold]
        rfl
      by_cases hfront : first ∈ front
      · rw [List.foldlM_append] at hslots
        obtain ⟨mid, hmid, -⟩ := exists_of_bind_eq_ok hslots
        exact fold_repeated field _ hfront hfirst hsecond hmid
      · -- the member that is added is read, and the one that was there is the second one then
        obtain ⟨before, after, rfl⟩ :=
          List.append_of_mem ((List.mem_append.1 hmem).resolve_left hfront)
        rw [← List.append_assoc, List.foldlM_append] at hslots
        obtain ⟨mid, hmid, hslots⟩ := exists_of_bind_eq_ok hslots
        rw [List.foldlM_cons] at hslots
        obtain ⟨next, hnext, -⟩ := exists_of_bind_eq_ok hslots
        obtain ⟨hslot, part, hpart, -⟩ := field.get_of_fill_named hfirst hnext
        obtain ⟨added, hadd⟩ : ∃ value, _ = Except.ok value :=
          (hsecondValue.resolve_left hfront).elim (fun hsame => ⟨part, hsame ▸ hpart⟩) id
        have hadded : (front ++ second :: before).foldlM fields.fill fields.unread =
            .ok (field.set added mid) := by
          refine fold_last.2 ⟨mid, hmid, ?_⟩
          rw [Fields.fill_eq hsecond, field.fill_slot, hslot, hadd]
          rfl
        have hlast := fold_repeated field after
          (List.mem_append_right front (List.mem_cons_self ..)) hsecond hfirst hadded
        rwa [List.append_assoc, List.cons_append] at hlast
  | missing field hnull hkey =>
      rw [meaning_object] at hvalue ⊢
      obtain ⟨last, hlast, hvalue⟩ := exists_of_bind_eq_ok hvalue
      obtain ⟨slots, hslots, hfill⟩ := fold_last.1 hlast
      obtain ⟨hslot, part, -, rfl⟩ := field.get_of_fill_named hkey hfill
      rw [hslots, ok_bind]
      exact field.closed_of_missing rfl hnull hslot hvalue
  | member field hkey _ ih =>
      rw [meaning_object] at hvalue ⊢
      obtain ⟨slots, hslots, -⟩ := exists_of_bind_eq_ok hvalue
      obtain ⟨next, hnext⟩ := fold_through field hkey hslots
      obtain ⟨part, hpart, -⟩ := exists_of_bind_eq_ok ((hnext _).symm.trans hslots)
      rw [hnext, ih hpart]
      rfl
  | field hshape _ ih =>
      obtain ⟨next, hnext⟩ := elements_through hshape hvalue
      obtain ⟨part, hpart, -⟩ := exists_of_bind_eq_ok ((hnext _).symm.trans hvalue)
      refine (hnext _).trans ?_
      rw [ih hpart]
      rfl
  | element _ ih =>
      obtain ⟨next, hnext⟩ := list_through hvalue
      obtain ⟨part, hpart, -⟩ := exists_of_bind_eq_ok ((hnext _).symm.trans hvalue)
      refine (hnext _).trans ?_
      rw [ih hpart]
      rfl
  | optional h ih =>
      rw [meaning_optional _ h.ne_null.1] at hvalue
      rw [meaning_optional _ h.ne_null.2]
      obtain ⟨part, hpart, -⟩ := exists_of_bind_eq_ok hvalue
      rw [ih hpart]
      rfl

/-! ## Documents -/

/-- The issue of a fault that is about the fields of a record says which mismatch it is. -/
theorem cause_of_issue {shape : Shape} {mismatch : Mismatch} {tree other : Tree}
    (h : shape.Spoils mismatch tree other) {fault : Fault} (hfault : fault.issue = mismatch.issue) :
    fault.cause = .mismatch mismatch := by
  have hkind : (∃ key, mismatch = .repeatedField key) ∨ ∃ key, mismatch = .missingField key := by
    induction h with
    | repeated => exact .inl ⟨_, rfl⟩
    | missing => exact .inr ⟨_, rfl⟩
    | member _ _ _ ih | field _ _ ih | element _ ih | optional _ ih => exact ih hfault
  obtain ⟨cause, left⟩ := fault
  rcases hkind with ⟨key, rfl⟩ | ⟨key, rfl⟩ <;>
    cases cause with
    | flaw flaw => cases hfault
    | mismatch found =>
        cases found <;> cases hfault
        rfl

variable {α : Type}

/-- A type is read from the fields that it knows of, whatever else stands in a document. -/
structure Codec.ReadsKnownFields (codec : Codec α) : Prop where
  /-- Nothing is read but documents. -/
  document : ∀ (bytes : Bytes) (a : α), codec.decode bytes = .ok a →
    ∃ document : Document, document.bytes = bytes
  /-- A document that is read stands for the same when it is written in another way. -/
  reworded : ∀ (document other : Document) (a : α), codec.decode document.bytes = .ok a →
    codec.shape.Rewords document.item other.item → codec.decode other.bytes = .ok a
  /-- It is refused for what spoils it. -/
  spoilt : ∀ (document other : Document) (a : α) (mismatch : Mismatch),
    codec.decode document.bytes = .ok a → codec.shape.Spoils mismatch document.item other.item →
      ∃ left, codec.decode other.bytes = .error ⟨.mismatch mismatch, left⟩

/-- Every type with a JSON form is read from the fields that it knows of. -/
theorem Codec.reads_known_fields (codec : Codec α) : codec.ReadsKnownFields where
  document bytes a hdecode := by
    obtain ⟨document, hbytes, -⟩ := codec.decode_iff.1 hdecode
    exact ⟨document, hbytes⟩
  reworded document other a hdecode hreworded := by
    obtain ⟨value, hvalue, rfl⟩ := codec.decode_document_iff.1 hdecode
    exact codec.decode_document_iff.2 ⟨value, hreworded.meaning hvalue, rfl⟩
  spoilt document other a mismatch hdecode hspoilt := by
    obtain ⟨value, hvalue, rfl⟩ := codec.decode_document_iff.1 hdecode
    have hissue := (codec.shape.decode_document other).trans (hspoilt.meaning hvalue)
    obtain ⟨fault, hfault, hsame⟩ := issues_eq_error_iff.1 hissue
    obtain ⟨cause, left⟩ := fault
    obtain rfl : cause = .mismatch mismatch := cause_of_issue hspoilt hsame
    exact ⟨left, by rw [Codec.decode, hfault]; rfl⟩

/-- Nothing but documents is read as one of the types that are exchanged. None of them is read as
anything else when the members of its objects are put into another order, when members of unknown
names with any values are added, or when fields that are null are written or left out, in it and in
all records within it. None is read when a member of a known name is repeated in it, or one is left
out that must be there. -/
theorem wire_reads_known_fields :
    Table.Ref.codec.ReadsKnownFields ∧ Table.Alias.codec.ReadsKnownFields ∧
      Table.Filter.codec.ReadsKnownFields ∧ Table.Join.codec.ReadsKnownFields ∧
      Table.Detail.codec.ReadsKnownFields ∧ Slack.User.codec.ReadsKnownFields ∧
      Slack.Message.codec.ReadsKnownFields ∧ Slack.Conversation.codec.ReadsKnownFields ∧
      Slack.Listing.codec.ReadsKnownFields :=
  ⟨Codec.reads_known_fields _, Codec.reads_known_fields _, Codec.reads_known_fields _,
    Codec.reads_known_fields _, Codec.reads_known_fields _, Codec.reads_known_fields _,
    Codec.reads_known_fields _, Codec.reads_known_fields _, Codec.reads_known_fields _⟩

end CatalogView.Json
