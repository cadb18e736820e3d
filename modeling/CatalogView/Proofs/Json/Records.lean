import CatalogView.Proofs.Json.Fields

/-!
# Records by their fields

What a record holds comes field by field: from the members of each name by themselves when it is
written as an object (`Fields.hold_iff`), and from the elements in their order when it is written as
a list (`elements_cons_iff`, `elements_nil_iff`).
-/

namespace CatalogView.Json

/-! ## Texts -/

/-- The JSON value is a text. -/
def HasText (tree : Tree) (text : String) : Prop :=
  ∃ parts, tree = .text parts ∧ text? parts = some text

/-- A text stands for itself, and nothing else does. -/
theorem meaning_text_iff {tree : Tree} {text : String} :
    Shape.text.meaning tree = .ok text ↔ HasText tree text := by
  cases tree with
  | text parts =>
      have horOther : orOther (text? parts) = .ok text ↔ text? parts = some text := by
        cases text? parts <;> simp [orOther]
      refine horOther.trans ⟨fun h => ⟨parts, rfl, h⟩, ?_⟩
      rintro ⟨_, he, h⟩
      cases he
      exact h
  | null | boolean | number | list | object =>
      constructor
      · intro h
        cases h
      · rintro ⟨_, he, -⟩
        cases he

/-- A text stands for itself where it may be null. -/
theorem meaning_optional_text_iff {tree : Tree} {text : String} :
    (Shape.optional .text).meaning tree = .ok (some text : Option String) ↔ HasText tree text := by
  rw [← meaning_text_iff]
  by_cases hnull : tree = .null
  · subst hnull
    exact ⟨nofun, nofun⟩
  · rw [Shape.meaning_optional _ hnull]
    cases Shape.text.meaning tree with
    | error issue => exact ⟨nofun, nofun⟩
    | ok found =>
        refine ⟨fun h => ?_, fun h => ?_⟩ <;> cases h <;> rfl

/-! ## Members by name -/

/-- The members of an object that have a name. -/
def named (name : String) (members : List (Member Tree)) : List (Member Tree) :=
  members.filter fun member => text? member.key = some name

/-- The members of an object that do not have a name. -/
def unnamed (name : String) (members : List (Member Tree)) : List (Member Tree) :=
  members.filter fun member => text? member.key ≠ some name

/-- The members of one name among those of no other. -/
theorem named_unnamed {name other : String} (hne : name ≠ other) (members : List (Member Tree)) :
    named name (unnamed other members) = named name members := by
  rw [named, unnamed, List.filter_filter]
  refine List.filter_congr fun member _ => ?_
  by_cases hname : text? member.key = some name
  · simp [hname, hne]
  · simp [hname]

/-- Members of a name have a text for a key. -/
theorem forall_unnamed_iff (name : String) (members : List (Member Tree)) :
    (∀ member ∈ unnamed name members, ∃ key, text? member.key = some key) ↔
      ∀ member ∈ members, ∃ key, text? member.key = some key := by
  refine ⟨fun h member hmem => ?_, fun h member hmem => h member (List.mem_of_mem_filter hmem)⟩
  by_cases hname : text? member.key = some name
  · exact ⟨name, hname⟩
  · exact h member (List.mem_filter.2 ⟨hmem, by simpa using hname⟩)

/-- What the members of one name make of a slot. -/
def FillSlot (shape : Shape) (members : List (Member Tree)) (slot next : Option shape.Value) :
    Prop :=
  members = [] ∧ next = slot ∨
    slot = none ∧ ∃ member value, members = [member] ∧
      shape.meaning member.value.item = .ok value ∧ next = some value

/-- A member fills a slot that nothing else fills. -/
theorem fill_slot_cons {shape : Shape} {member : Member Tree} {members : List (Member Tree)}
    {slot next : Option shape.Value} :
    FillSlot shape (member :: members) slot next ↔
      slot = none ∧ ∃ value, shape.meaning member.value.item = .ok value ∧
        FillSlot shape members (some value) next := by
  simp only [FillSlot, List.cons.injEq, reduceCtorEq, false_and, false_or, or_false]
  constructor
  · rintro ⟨hslot, _, value, ⟨rfl, hmembers⟩, hvalue, hnext⟩
    exact ⟨hslot, value, hvalue, hmembers, hnext⟩
  · rintro ⟨hslot, value, hvalue, hmembers, hnext⟩
    exact ⟨hslot, member, value, ⟨rfl, hmembers⟩, hvalue, hnext⟩

/-- The members of an object fill the slots of a record each by itself. -/
theorem fold_cons_iff {name : String} {shape : Shape} {mayBeOmitted : Bool} {rest : Fields}
    (members : List (Member Tree))
    {slots last : (Fields.cons name shape mayBeOmitted rest).Slots} :
    members.foldlM (Fields.cons name shape mayBeOmitted rest).fill slots = .ok last ↔
      FillSlot shape (named name members) slots.1 last.1 ∧
        (unnamed name members).foldlM rest.fill slots.2 = .ok last.2 := by
  induction members generalizing slots with
  | nil =>
      constructor
      · intro h
        cases h
        exact ⟨.inl ⟨rfl, rfl⟩, rfl⟩
      · rintro ⟨⟨-, hnext⟩ | ⟨-, _, _, hmembers, -⟩, hmore⟩
        · obtain ⟨next, more⟩ := last
          cases hnext
          cases hmore
          rfl
        · cases hmembers
  | cons member members ih =>
      rw [List.foldlM_cons]
      cases hkey : text? member.key with
      | none =>
          have hothers : unnamed name (member :: members) = member :: unnamed name members := by
            simp [unnamed, hkey]
          rw [hothers, List.foldlM_cons]
          simp [Fields.fill, fillWith, hkey, orOther]
      | some key =>
          rw [Fields.fill_eq hkey]
          obtain ⟨slot, slots⟩ := slots
          by_cases hname : key = name
          · subst hname
            have hnamed : named key (member :: members) = member :: named key members ∧
                unnamed key (member :: members) = unnamed key members := by
              simp [named, unnamed, hkey]
            rw [hnamed.1, hnamed.2, fill_slot_cons]
            constructor
            · intro h
              obtain ⟨mid, hmid, h⟩ := exists_of_bind_eq_ok h
              obtain ⟨hslot, value, hvalue, rfl⟩ := Fields.fill_first_iff.1 hmid
              obtain ⟨hnext, hmore⟩ := ih.1 h
              exact ⟨⟨hslot, value, hvalue, hnext⟩, hmore⟩
            · rintro ⟨⟨hslot, value, hvalue, hnext⟩, hmore⟩
              rw [Fields.fill_first_iff.2 ⟨hslot, value, hvalue, rfl⟩]
              exact ih.2 ⟨hnext, hmore⟩
          · have hnamed : named name (member :: members) = named name members ∧
                unnamed name (member :: members) = member :: unnamed name members := by
              simp [named, unnamed, hkey, hname]
            rw [hnamed.1, hnamed.2, List.foldlM_cons, Fields.fill_eq hkey]
            constructor
            · intro h
              obtain ⟨mid, hmid, h⟩ := exists_of_bind_eq_ok h
              obtain ⟨more, hmore, rfl⟩ := (Fields.fill_other_iff hname).1 hmid
              rw [hmore]
              exact ih.1 h
            · rintro ⟨hnext, h⟩
              obtain ⟨more, hmore, h⟩ := exists_of_bind_eq_ok h
              rw [(Fields.fill_other_iff hname).2 ⟨more, hmore, rfl⟩]
              exact ih.2 ⟨hnext, h⟩

/-- The value of a field by the members that have its name. -/
def FieldHolds (name : String) (shape : Shape) (mayBeOmitted : Bool)
    (members : List (Member Tree)) (value : shape.Value) : Prop :=
  members = [] ∧ slotValue name shape mayBeOmitted none = .ok value ∨
    ∃ member, members = [member] ∧ shape.meaning member.value.item = .ok value

/-- The values of a record by the members of an object. -/
def Fields.Hold : (fields : Fields) → List (Member Tree) → fields.Values → Prop
  | .nil, members, _ => ∀ member ∈ members, ∃ key, text? member.key = some key
  | .cons name shape mayBeOmitted rest, members, (value, values) =>
    FieldHolds name shape mayBeOmitted (named name members) value ∧
      rest.Hold (unnamed name members) values

/-- A slot that its members fill holds the value of the field. -/
theorem field_holds_iff {name : String} {shape : Shape} {mayBeOmitted : Bool}
    {members : List (Member Tree)} {value : shape.Value} :
    FieldHolds name shape mayBeOmitted members value ↔
      ∃ slot, FillSlot shape members none slot ∧
        slotValue name shape mayBeOmitted slot = .ok value := by
  constructor
  · rintro (⟨rfl, hvalue⟩ | ⟨member, rfl, hvalue⟩)
    · exact ⟨none, .inl ⟨rfl, rfl⟩, hvalue⟩
    · exact ⟨some value, .inr ⟨rfl, member, value, rfl, hvalue, rfl⟩, rfl⟩
  · rintro ⟨slot, ⟨rfl, rfl⟩ | ⟨-, member, found, rfl, hfound, rfl⟩, hvalue⟩
    · exact .inl ⟨rfl, hvalue⟩
    · cases hvalue
      exact .inr ⟨member, rfl, hfound⟩

/-- The members of an object hold the values that come of reading them. -/
theorem Fields.hold_iff : (fields : Fields) → (members : List (Member Tree)) →
    (values : fields.Values) →
    (members.foldlM fields.fill fields.unread >>= fields.closed = .ok values ↔
      fields.Hold members values)
  | .nil, members, values => by
      induction members with
      | nil => exact ⟨fun _ => nofun, fun _ => rfl⟩
      | cons member members ih =>
          rw [List.foldlM_cons]
          cases hkey : text? member.key with
          | none => simp [Fields.fill, fillWith, hkey, orOther, Fields.Hold]
          | some key =>
              rw [Fields.fill_eq hkey]
              refine ih.trans ?_
              simp [Fields.Hold, hkey]
  | .cons name shape mayBeOmitted rest, members, (value, values) => by
      rw [Fields.Hold, field_holds_iff, ← rest.hold_iff]
      constructor
      · intro h
        obtain ⟨⟨slot, slots⟩, hslots, h⟩ := exists_of_bind_eq_ok h
        obtain ⟨hslot, hmore⟩ := (fold_cons_iff members).1 hslots
        rw [closed_cons] at h
        obtain ⟨first, hfirst, h⟩ := exists_of_bind_eq_ok h
        obtain ⟨more, hclosed, h⟩ := exists_of_bind_eq_ok h
        cases h
        have hmore' : (unnamed name members).foldlM rest.fill rest.unread = .ok slots := hmore
        rw [hmore']
        exact ⟨⟨slot, hslot, hfirst⟩, hclosed⟩
      · rintro ⟨⟨slot, hslot, hfirst⟩, h⟩
        obtain ⟨slots, hmore, hclosed⟩ := exists_of_bind_eq_ok h
        have hslots : members.foldlM (Fields.cons name shape mayBeOmitted rest).fill
            (Fields.cons name shape mayBeOmitted rest).unread = .ok (slot, slots) :=
          (fold_cons_iff members).2 ⟨hslot, hmore⟩
        rw [hslots]
        show (Fields.cons name shape mayBeOmitted rest).closed (slot, slots) = _
        rw [closed_cons, hfirst, ok_bind, hclosed]
        rfl

/-- A field that must be there holds what the one member of its name stands for. -/
theorem field_holds_text_iff {name : String} {members : List (Member Tree)} {text : String} :
    FieldHolds name .text false members text ↔
      ∃ member, members = [member] ∧ HasText member.value.item text := by
  simp only [← meaning_text_iff]
  refine ⟨?_, .inr⟩
  rintro (⟨-, habsent⟩ | h)
  · cases habsent
  · exact h

/-! ## Elements in their order -/

section

variable {name : String} {shape : Shape} {mayBeOmitted : Bool} {rest : Fields}
  {value : shape.Value} {values : rest.Values}

/-- The first element of a list is the value of the first field. -/
theorem elements_cons_iff {element : Spaced Tree} {elements : List (Spaced Tree)} :
    (Fields.cons name shape mayBeOmitted rest).meaningOfElements (element :: elements) =
        .ok (value, values) ↔
      shape.meaning element.item = .ok value ∧ rest.meaningOfElements elements = .ok values := by
  constructor
  · intro h
    obtain ⟨first, hfirst, h⟩ := exists_of_bind_eq_ok h
    obtain ⟨more, hmore, h⟩ := exists_of_bind_eq_ok h
    cases h
    exact ⟨hfirst, hmore⟩
  · rintro ⟨hfirst, hmore⟩
    rw [Fields.meaningOfElements, hfirst, ok_bind, hmore]
    rfl

/-- Without an element a field is blank, if it may be left out. -/
theorem elements_nil_iff :
    (Fields.cons name shape mayBeOmitted rest).meaningOfElements [] = .ok (value, values) ↔
      mayBeOmitted = true ∧ shape.blank = value ∧ rest.meaningOfElements [] = .ok values := by
  rw [Fields.meaningOfElements]
  constructor
  · intro h
    split at h
    next homitted =>
      obtain ⟨more, hmore, h⟩ := exists_of_bind_eq_ok h
      cases h
      exact ⟨homitted, rfl, hmore⟩
    next => cases h
  · rintro ⟨homitted, rfl, hmore⟩
    rw [if_pos homitted, hmore]
    rfl

end

end CatalogView.Json
