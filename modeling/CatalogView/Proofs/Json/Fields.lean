import CatalogView.Proofs.Json.Meaning
import Mathlib.Data.List.Perm.Basic

/-!
# Slots of a record

The members of an object fill the slots of a record. A field is found by its name (`Fields.At`), its
slot is filled once, and members of other names leave it alone, so the order of the members makes no
difference (`fill_perm`). A record can be closed when the slots of all fields are filled that may
not be left out.
-/

namespace CatalogView.Json

/-! ## Closing -/

/-- The value of a field once all members have been read. -/
def slotValue (name : String) (shape : Shape) (mayBeOmitted : Bool) :
    Option shape.Value → Except Issue shape.Value
  | some value => .ok value
  | none =>
    if mayBeOmitted then .ok shape.blank
    else
      match shape.absent? with
      | some value => .ok value
      | none => .error (.missing name)

/-- A record is closed field by field. -/
theorem closed_cons (name : String) (shape : Shape) (mayBeOmitted : Bool) (rest : Fields)
    (slot : Option shape.Value) (slots : rest.Slots) :
    (Fields.cons name shape mayBeOmitted rest).closed (slot, slots) = (do
      let value ← slotValue name shape mayBeOmitted slot
      let values ← rest.closed slots
      pure (value, values)) := by
  have hvalues : ∀ value : shape.Value,
      ((do
        let values ← rest.close slots
        pure (value, values)) : Except Mismatch (shape.Value × rest.Values)).mapError
          Mismatch.issue = (do
        let values ← rest.closed slots
        pure (value, values)) := by
    intro value
    unfold Fields.closed
    cases rest.close slots <;> rfl
  cases slot with
  | some value => exact hvalues value
  | none =>
      simp only [Fields.closed, Fields.close, slotValue]
      cases mayBeOmitted with
      | true => exact hvalues shape.blank
      | false =>
          cases shape.absent? with
          | some value => exact hvalues value
          | none => rfl

/-! ## Filling -/

section

variable {field : String} {shape : Shape} {mayBeOmitted : Bool} {rest : Fields}
  {slot : Option shape.Value} {slots : rest.Slots} {key : String} {tree : Tree}

/-- A member is read into the first slot if it has the name of the first field. -/
theorem Fields.fill_first_iff {next : (Fields.cons field shape mayBeOmitted rest).Slots} :
    (Fields.cons field shape mayBeOmitted rest).fillSlot field tree (slot, slots) = .ok next ↔
      slot = none ∧ ∃ value, shape.meaning tree = .ok value ∧ next = (some value, slots) := by
  simp only [Fields.fillSlot, if_true]
  cases slot with
  | some value => simp
  | none =>
      cases hvalue : shape.meaning tree with
      | error issue => simp
      | ok value =>
          simp only [ok_bind, true_and, Except.ok.injEq, exists_eq_left']
          exact ⟨fun h => by cases h; rfl, fun h => by rw [h]; rfl⟩

/-- A member is read into another slot if it has another name. -/
theorem Fields.fill_other_iff {next : (Fields.cons field shape mayBeOmitted rest).Slots}
    (hkey : key ≠ field) :
    (Fields.cons field shape mayBeOmitted rest).fillSlot key tree (slot, slots) = .ok next ↔
      ∃ more, rest.fillSlot key tree slots = .ok more ∧ next = (slot, more) := by
  simp only [Fields.fillSlot, if_neg hkey]
  cases hmore : rest.fillSlot key tree slots with
  | error issue => simp
  | ok more =>
      simp only [ok_bind, Except.ok.injEq, exists_eq_left']
      exact ⟨fun h => by cases h; rfl, fun h => by rw [h]; rfl⟩

end

/-! ## Fields by name -/

/-- Where a record has the field that members with a name belong to, which is the first one with
this name. -/
inductive Fields.At : Fields → String → Shape → Bool → Type where
  | here {name : String} {shape : Shape} {mayBeOmitted : Bool} {rest : Fields} :
      At (.cons name shape mayBeOmitted rest) name shape mayBeOmitted
  | there {other name : String} {otherShape shape : Shape} {otherMay mayBeOmitted : Bool}
      {rest : Fields} (hne : other ≠ name) (field : At rest name shape mayBeOmitted) :
      At (.cons other otherShape otherMay rest) name shape mayBeOmitted

namespace Fields.At

variable {fields : Fields} {name : String} {shape : Shape} {mayBeOmitted : Bool}

/-- The slot of a field. -/
def get : {fields : Fields} → fields.At name shape mayBeOmitted → fields.Slots →
    Option shape.Value
  | _, .here, (slot, _) => slot
  | _, .there _ field, (_, slots) => field.get slots

/-- The slots with that of a field filled. -/
def set : {fields : Fields} → fields.At name shape mayBeOmitted → shape.Value → fields.Slots →
    fields.Slots
  | _, .here, value, (_, slots) => (some value, slots)
  | _, .there _ field, value, (slot, slots) => (slot, field.set value slots)

/-- A slot that is filled holds the value. -/
theorem get_set (field : fields.At name shape mayBeOmitted) (value : shape.Value)
    (slots : fields.Slots) : field.get (field.set value slots) = some value := by
  induction field with
  | here => rfl
  | there hne field ih => exact ih value slots.2

/-- A member is read into the slot of its name, unless that is filled. -/
theorem fill_slot (field : fields.At name shape mayBeOmitted) (tree : Tree)
    (slots : fields.Slots) :
    fields.fillSlot name tree slots =
      match field.get slots with
      | some _ => .error (.repeated name)
      | none => (do
        let value ← shape.meaning tree
        pure (field.set value slots)) := by
  induction field with
  | here =>
      obtain ⟨slot, slots⟩ := slots
      cases slot with
      | some value => simp only [Fields.fillSlot, if_true, get]
      | none =>
          simp only [Fields.fillSlot, if_true, get]
          rfl
  | there hne field ih =>
      obtain ⟨slot, slots⟩ := slots
      simp only [Fields.fillSlot, if_neg hne.symm, ih, get]
      cases field.get slots with
      | some value => rfl
      | none => simp only [bind_assoc, pure_bind, set]

/-- Members of other names leave a slot alone. -/
theorem get_of_fill_other (field : fields.At name shape mayBeOmitted) {key : String}
    (hkey : key ≠ name) {tree : Tree} {slots next : fields.Slots}
    (h : fields.fillSlot key tree slots = .ok next) : field.get next = field.get slots := by
  induction field with
  | here =>
      obtain ⟨slot, slots⟩ := slots
      obtain ⟨more, -, rfl⟩ := (fill_other_iff hkey).1 h
      rfl
  | @there other _ _ _ _ _ _ hne field ih =>
      obtain ⟨slot, slots⟩ := slots
      by_cases hother : key = other
      · subst hother
        obtain ⟨-, value, -, rfl⟩ := fill_first_iff.1 h
        rfl
      · obtain ⟨more, hmore, rfl⟩ := (fill_other_iff hother).1 h
        exact ih hkey hmore

/-- A record with the value of a field that it has without the field anyway is the same. -/
theorem closed_of_absent {fields : Fields} (field : fields.At name shape mayBeOmitted)
    {slots : fields.Slots} {value : shape.Value} (hblank : shape.blank = value)
    (habsent : shape.absent? = some value) (hslot : field.get slots = none) :
    fields.closed (field.set value slots) = fields.closed slots := by
  induction field with
  | @here _ _ mayBeOmitted _ =>
      obtain ⟨slot, slots⟩ := slots
      obtain rfl : slot = none := hslot
      cases mayBeOmitted <;> simp [set, closed_cons, slotValue, hblank, habsent]
  | there hne field ih =>
      obtain ⟨slot, slots⟩ := slots
      simp only [set, closed_cons, ih hblank habsent hslot]

/-- A record without a field that must be there cannot be closed. -/
theorem closed_of_missing {fields : Fields} (field : fields.At name shape mayBeOmitted)
    (hrequired : mayBeOmitted = false) (hnull : shape.allowsNull = false) {slots : fields.Slots}
    {value : shape.Value} {values : fields.Values} (hslot : field.get slots = none)
    (h : fields.closed (field.set value slots) = .ok values) :
    fields.closed slots = .error (.missing name) := by
  induction field with
  | @here _ shape _ _ =>
      obtain ⟨slot, slots⟩ := slots
      obtain rfl : slot = none := hslot
      have habsent : shape.absent? = none := by
        cases shape with
        | optional inner => cases hnull
        | text | count | list | record => rfl
      simp [closed_cons, slotValue, hrequired, habsent]
  | there hne field ih =>
      obtain ⟨slot, slots⟩ := slots
      rw [set, closed_cons] at h
      obtain ⟨first, hfirst, h⟩ := exists_of_bind_eq_ok h
      obtain ⟨more, hmore, -⟩ := exists_of_bind_eq_ok h
      rw [closed_cons, hfirst, ok_bind, ih hrequired hnull hslot hmore, error_bind]

end Fields.At

/-! ## Members one after the other -/

variable {fields : Fields}

/-- Members of unknown names leave all slots alone. -/
theorem Fields.fill_slot_unknown {fields : Fields} {key : String} (hkey : key ∉ fields.names)
    (tree : Tree) (slots : fields.Slots) : fields.fillSlot key tree slots = .ok slots := by
  match fields with
  | .nil => rfl
  | .cons name shape mayBeOmitted rest =>
      obtain ⟨slot, slots⟩ := slots
      obtain ⟨hname, hrest⟩ : key ≠ name ∧ key ∉ rest.names := by
        simpa [Fields.names] using hkey
      simp only [Fields.fillSlot, if_neg hname, fill_slot_unknown hrest, ok_bind]
      rfl

/-- Two members can be read in either order. -/
theorem Fields.fill_slot_comm {fields : Fields} {key other : String} {tree otherTree : Tree}
    {slots next last : fields.Slots} (hfirst : fields.fillSlot key tree slots = .ok next)
    (hsecond : fields.fillSlot other otherTree next = .ok last) :
    ∃ between, fields.fillSlot other otherTree slots = .ok between ∧
      fields.fillSlot key tree between = .ok last := by
  match fields with
  | .nil => exact ⟨(), rfl, rfl⟩
  | .cons name shape mayBeOmitted rest =>
      obtain ⟨slot, slots⟩ := slots
      by_cases hkey : key = name
      · subst hkey
        obtain ⟨rfl, value, hvalue, rfl⟩ := fill_first_iff.1 hfirst
        by_cases hother : other = key
        · -- the second member of one name is refused
          subst hother
          exact absurd (fill_first_iff.1 hsecond).1 (Option.some_ne_none value)
        · obtain ⟨more, hmore, rfl⟩ := (fill_other_iff hother).1 hsecond
          exact ⟨(none, more), (fill_other_iff hother).2 ⟨more, hmore, rfl⟩,
            fill_first_iff.2 ⟨rfl, value, hvalue, rfl⟩⟩
      · obtain ⟨more, hmore, rfl⟩ := (fill_other_iff hkey).1 hfirst
        by_cases hother : other = name
        · subst hother
          obtain ⟨rfl, value, hvalue, rfl⟩ := fill_first_iff.1 hsecond
          exact ⟨(some value, slots), fill_first_iff.2 ⟨rfl, value, hvalue, rfl⟩,
            (fill_other_iff hkey).2 ⟨more, hmore, rfl⟩⟩
        · obtain ⟨most, hmost, rfl⟩ := (fill_other_iff hother).1 hsecond
          obtain ⟨between, hbetween, hswapped⟩ := fill_slot_comm hmore hmost
          exact ⟨(slot, between), (fill_other_iff hother).2 ⟨between, hbetween, rfl⟩,
            (fill_other_iff hkey).2 ⟨most, hswapped, rfl⟩⟩

/-- The key of a member that is read is a text. -/
theorem Fields.fill_eq {member : Member Tree} {key : String} (hkey : text? member.key = some key)
    (slots : fields.Slots) :
    fields.fill slots member = fields.fillSlot key member.value.item slots := by
  simp only [Fields.fill, fillWith, hkey, orOther, ok_bind]

/-- The key of a member that is read is a text. -/
theorem Fields.exists_key {member : Member Tree} {slots next : fields.Slots}
    (h : fields.fill slots member = .ok next) : ∃ key, text? member.key = some key := by
  cases hkey : text? member.key with
  | some key => exact ⟨key, rfl⟩
  | none => simp [Fields.fill, fillWith, hkey, orOther] at h

/-- The order of the members makes no difference. -/
theorem fill_perm {members others : List (Member Tree)} (hperm : members.Perm others)
    {slots last : fields.Slots} (h : members.foldlM fields.fill slots = .ok last) :
    others.foldlM fields.fill slots = .ok last := by
  induction hperm generalizing slots with
  | nil => exact h
  | cons member _ ih =>
      rw [List.foldlM_cons] at h ⊢
      obtain ⟨next, hnext, h⟩ := exists_of_bind_eq_ok h
      rw [hnext]
      exact ih h
  | swap first second members =>
      simp only [List.foldlM_cons] at h ⊢
      obtain ⟨next, hnext, h⟩ := exists_of_bind_eq_ok h
      obtain ⟨last', hlast, h⟩ := exists_of_bind_eq_ok h
      obtain ⟨key, hkey⟩ := Fields.exists_key hnext
      obtain ⟨other, hother⟩ := Fields.exists_key hlast
      rw [Fields.fill_eq hkey] at hnext
      rw [Fields.fill_eq hother] at hlast
      obtain ⟨between, hbetween, hswapped⟩ := Fields.fill_slot_comm hnext hlast
      simp only [Fields.fill_eq hkey, Fields.fill_eq hother, hbetween, ok_bind, hswapped]
      exact h
  | trans _ _ ih ih' => exact ih' (ih h)

namespace Fields.At

variable {name : String} {shape : Shape} {mayBeOmitted : Bool}

/-- A slot that is filled stays so. -/
theorem get_of_fill_some (field : fields.At name shape mayBeOmitted) {member : Member Tree}
    {slots next : fields.Slots} {value : shape.Value} (hslot : field.get slots = some value)
    (h : fields.fill slots member = .ok next) : field.get next = some value := by
  obtain ⟨key, hkey⟩ := Fields.exists_key h
  rw [Fields.fill_eq hkey] at h
  by_cases hname : key = name
  · subst hname
    rw [field.fill_slot, hslot] at h
    cases h
  · rw [field.get_of_fill_other hname h, hslot]

/-- A member fills the slot of its name. -/
theorem get_of_fill_named (field : fields.At name shape mayBeOmitted) {member : Member Tree}
    (hname : text? member.key = some name) {slots next : fields.Slots}
    (h : fields.fill slots member = .ok next) :
    field.get slots = none ∧ ∃ value, shape.meaning member.value.item = .ok value ∧
      next = field.set value slots := by
  rw [Fields.fill_eq hname, field.fill_slot] at h
  cases hslot : field.get slots with
  | some value =>
      rw [hslot] at h
      cases h
  | none =>
      rw [hslot] at h
      obtain ⟨value, hvalue, h⟩ := exists_of_bind_eq_ok h
      cases h
      exact ⟨rfl, value, hvalue, rfl⟩

/-- The slot of a field is filled once all members have been read of which one has its name. -/
theorem get_of_fold_named (field : fields.At name shape mayBeOmitted) {member : Member Tree}
    {members : List (Member Tree)} (hmem : member ∈ members)
    (hname : text? member.key = some name) {slots last : fields.Slots}
    (h : members.foldlM fields.fill slots = .ok last) : ∃ value, field.get last = some value := by
  have hkept : ∀ {members : List (Member Tree)} {slots last : fields.Slots} {value : shape.Value},
      field.get slots = some value → members.foldlM fields.fill slots = .ok last →
        field.get last = some value := by
    intro members
    induction members with
    | nil =>
        intro slots last value hslot h
        cases h
        exact hslot
    | cons member members ih =>
        intro slots last value hslot h
        rw [List.foldlM_cons] at h
        obtain ⟨next, hnext, h⟩ := exists_of_bind_eq_ok h
        exact ih (field.get_of_fill_some hslot hnext) h
  obtain ⟨front, back, rfl⟩ := List.append_of_mem hmem
  rw [List.foldlM_append] at h
  obtain ⟨mid, -, h⟩ := exists_of_bind_eq_ok h
  rw [List.foldlM_cons] at h
  obtain ⟨next, hnext, h⟩ := exists_of_bind_eq_ok h
  obtain ⟨-, value, -, rfl⟩ := field.get_of_fill_named hname hnext
  exact ⟨value, hkept (field.get_set value mid) h⟩

/-- The slot of a field stays empty while no members have its name. -/
theorem get_of_fold_other (field : fields.At name shape mayBeOmitted)
    {members : List (Member Tree)} (hnames : ∀ member ∈ members, text? member.key ≠ some name)
    {slots last : fields.Slots} (h : members.foldlM fields.fill slots = .ok last) :
    field.get last = field.get slots := by
  induction members generalizing slots with
  | nil =>
      cases h
      rfl
  | cons member members ih =>
      obtain ⟨hmember, hmembers⟩ := List.forall_mem_cons.1 hnames
      rw [List.foldlM_cons] at h
      obtain ⟨next, hnext, h⟩ := exists_of_bind_eq_ok h
      obtain ⟨key, hkey⟩ := Fields.exists_key hnext
      have hne : key ≠ name := fun he => hmember (by rw [hkey, he])
      rw [Fields.fill_eq hkey] at hnext
      rw [ih hmembers h, field.get_of_fill_other hne hnext]

/-- No slot is filled before any member has been read. -/
theorem get_unread {fields : Fields} (field : fields.At name shape mayBeOmitted) :
    field.get fields.unread = none := by
  induction field with
  | here => rfl
  | there hne field ih => exact ih

end Fields.At

end CatalogView.Json
