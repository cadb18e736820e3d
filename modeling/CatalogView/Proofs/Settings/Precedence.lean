import CatalogView.Proofs.Table.Detail
import CatalogView.Settings.File

/-!
# Where a setting comes from

A setting comes from the environment if its variable is set there, or else from the file, or else it
has its default. `Item` lists the settings one by one, each with its place in the file, and
`of_fields_eq_some_iff` says that the file is read item by item. So no setting has anything to do
with another, except that a file with one bad value is no file at all: `settings_precedence`.
-/

namespace CatalogView

open CatalogView.Text CatalogView.Toml

/-- A document is a TOML document with these fields. -/
def Document.HasFields (document : Document) (fields : Fields) : Prop :=
  ∃ text, document = .file (Utf8.encode text) ∧ Toml.read? text = some fields

namespace Settings

/-! ## The settings one by one -/

/-- One of the settings. -/
inductive Item where
  | baseUrl
  | connectSeconds
  | answerSeconds
  | detailFile
  | tickMillis
  deriving DecidableEq, Repr

/-- What is set. -/
inductive Datum where
  | text (text : String)
  | number (n : Nat)
  deriving DecidableEq, Repr

namespace Item

/-- The table in the file that has the item. -/
def table : Item → String
  | .baseUrl | .connectSeconds | .answerSeconds => "api"
  | .detailFile | .tickMillis => "ui"

/-- The key of the item in its table. -/
def key : Item → String
  | .baseUrl => "base_url"
  | .connectSeconds => "connect_timeout_seconds"
  | .answerSeconds => "timeout_seconds"
  | .detailFile => "metadata_file"
  | .tickMillis => "tick_millis"

/-- The variable of the environment that goes before the file. -/
def environmentKey? : Item → Option String
  | .baseUrl => some "STEMMA_BASE_URL"
  | .detailFile => some "STEMMA_METADATA_FILE"
  | .connectSeconds | .answerSeconds | .tickMillis => none

/-- The item is a text, and else it is a number. -/
def isText : Item → Bool
  | .baseUrl | .detailFile => true
  | .connectSeconds | .answerSeconds | .tickMillis => false

/-- What holds for an item that is not set. -/
def default? : Item → Option Datum
  | .baseUrl => some (.text "http://localhost:5000")
  | .connectSeconds => some (.number 5)
  | .answerSeconds => some (.number 20)
  | .detailFile => none
  | .tickMillis => some (.number 50)

/-- What an item is set to. -/
def get? (settings : Settings) : Item → Option Datum
  | .baseUrl => some (.text settings.api.baseUrl)
  | .connectSeconds => some (.number settings.api.connectSeconds)
  | .answerSeconds => some (.number settings.api.answerSeconds)
  | .detailFile => settings.view.detailFile?.map .text
  | .tickMillis => some (.number settings.view.tickMillis)

/-- The value that the fields of a document have for an item. -/
def value? (item : Item) (fields : Fields) : Option Value :=
  (fields.get? item.table).bind fun
    | .table _ inner => Fields.get? inner item.key
    | _ => none

/-- A value of a document sets an item to something. -/
inductive Means (item : Item) : Value → Datum → Prop where
  | text (text : String) (htext : item.isText = true) : Means item (.string text) (.text text)
  | number (n : Nat) (hnumber : item.isText = false) : Means item (.integer n) (.number n)

/-- The environment sets the item to a text. -/
def IsOverridden (item : Item) (lookup : String → Option String) (text : String) : Prop :=
  ∃ name, item.environmentKey? = some name ∧ lookup name = some text ∧ text ≠ ""

end Item

/-- The value is a table. -/
def isTable : Value → Bool
  | .table _ _ => true
  | _ => false

/-- Where settings are looked for in a document there are tables or nothing. -/
def HasTables (fields : Fields) : Prop :=
  ∀ name ∈ ["api", "ui"], ∀ value ∈ fields.get? name, isTable value = true

instance : DecidablePred HasTables := fun fields =>
  inferInstanceAs
    (Decidable (∀ name ∈ ["api", "ui"], ∀ value ∈ fields.get? name, isTable value = true))

/-- Every item that a document has a value for is set to something by it. -/
def IsSound (fields : Fields) : Prop :=
  ∀ (item : Item) (value : Value), item.value? fields = some value → ∃ datum, item.Means value datum

/-- An item is set to what the value for it means, or to its default without one. -/
def Item.Gives (item : Item) : Option Value → Option Datum → Prop
  | none, datum? => datum? = item.default?
  | some value, datum? => ∃ datum, item.Means value datum ∧ datum? = some datum

variable {fields : Fields} {settings : Settings} {item : Item} {value? : Option Value}

/-! ## Items in a file -/

/-- A text with a default is read as what it is set to. -/
theorem string_eq_some_iff (item : Item) {default text : String} (htext : item.isText = true)
    (hdefault : item.default? = some (.text default)) :
    string? default value? = some text ↔ item.Gives value? (some (.text text)) := by
  cases value? with
  | none =>
      show some default = some text ↔ some (.text text) = item.default?
      rw [hdefault, Option.some.injEq, Option.some.injEq, Datum.text.injEq, eq_comm]
  | some value =>
      constructor
      · intro h
        cases value with
        | string given =>
            cases h
            exact ⟨_, .text _ htext, rfl⟩
        | integer | float | boolean | date | array | table | tables => cases h
      · rintro ⟨datum, hmeans, hdatum⟩
        cases hdatum
        cases hmeans
        rfl

/-- So is a text that need not be there. -/
theorem optional_eq_some_iff (item : Item) {text? : Option String} (htext : item.isText = true)
    (hdefault : item.default? = none) :
    optional? value? = some text? ↔ item.Gives value? (text?.map .text) := by
  cases value? with
  | none =>
      show some none = some text? ↔ text?.map .text = item.default?
      rw [hdefault, Option.some.injEq, Option.map_eq_none_iff, eq_comm]
  | some value =>
      constructor
      · intro h
        cases value with
        | string given =>
            cases h
            exact ⟨_, .text _ htext, rfl⟩
        | integer | float | boolean | date | array | table | tables => cases h
      · rintro ⟨datum, hmeans, hdatum⟩
        obtain ⟨text, rfl, rfl⟩ := Option.map_eq_some_iff.1 hdatum
        cases hmeans
        rfl

/-- So is a number. -/
theorem natural_eq_some_iff (item : Item) {default n : Nat} (hnumber : item.isText = false)
    (hdefault : item.default? = some (.number default)) :
    natural? default value? = some n ↔ item.Gives value? (some (.number n)) := by
  cases value? with
  | none =>
      show some default = some n ↔ some (.number n) = item.default?
      rw [hdefault, Option.some.injEq, Option.some.injEq, Datum.number.injEq, eq_comm]
  | some value =>
      constructor
      · intro h
        cases value with
        | integer given =>
            have hgiven : (if 0 ≤ given then some given.toNat else none) = some n := h
            split at hgiven
            next hpositive =>
              obtain ⟨positive, rfl⟩ := Int.eq_ofNat_of_zero_le hpositive
              cases hgiven
              exact ⟨_, .number positive hnumber, rfl⟩
            next => cases hgiven
        | string | float | boolean | date | array | table | tables => cases h
      · rintro ⟨datum, hmeans, hdatum⟩
        cases hdatum
        cases hmeans
        show (if 0 ≤ (n : Int) then some (n : Int).toNat else none) = some n
        rw [if_pos (Int.natCast_nonneg n)]
        rfl

/-- A text is read unless there is a value that sets it to nothing. -/
theorem exists_string {default : String} (htext : item.isText = true)
    (hmeans : ∀ value, value? = some value → ∃ datum, item.Means value datum) :
    ∃ text, string? default value? = some text := by
  cases value? with
  | none => exact ⟨default, rfl⟩
  | some value =>
      obtain ⟨datum, hdatum⟩ := hmeans value rfl
      cases hdatum with
      | text text => exact ⟨text, rfl⟩
      | number n hnumber => simp [htext] at hnumber

/-- So is a text that need not be there. -/
theorem exists_optional (htext : item.isText = true)
    (hmeans : ∀ value, value? = some value → ∃ datum, item.Means value datum) :
    ∃ text?, optional? value? = some text? := by
  cases value? with
  | none => exact ⟨none, rfl⟩
  | some value =>
      obtain ⟨datum, hdatum⟩ := hmeans value rfl
      cases hdatum with
      | text text => exact ⟨some text, rfl⟩
      | number n hnumber => simp [htext] at hnumber

/-- So is a number. -/
theorem exists_natural {default : Nat} (hnumber : item.isText = false)
    (hmeans : ∀ value, value? = some value → ∃ datum, item.Means value datum) :
    ∃ n, natural? default value? = some n := by
  cases value? with
  | none => exact ⟨default, rfl⟩
  | some value =>
      obtain ⟨datum, hdatum⟩ := hmeans value rfl
      cases hdatum with
      | text text htext => simp [hnumber] at htext
      | number n => exact ⟨n, by simp [natural?]⟩

/-- A table that is there has the values for its items. -/
theorem value_of_table {origin : Origin} {inner : Fields}
    (h : fields.get? item.table = some (.table origin inner)) :
    item.value? fields = inner.get? item.key := by
  unfold Item.value?
  rw [h]
  rfl

/-- Without it there are none. -/
theorem value_of_none (h : fields.get? item.table = none) : item.value? fields = none := by
  unfold Item.value?
  rw [h]
  rfl

/-- A table for the settings is one, if it is there. -/
theorem exists_of_has_tables (htables : HasTables fields) {name : String} {value : Value}
    (hname : name ∈ ["api", "ui"]) (hvalue : fields.get? name = some value) :
    ∃ origin inner, value = .table origin inner := by
  have htable := htables name hname value hvalue
  cases value with
  | table origin inner => exact ⟨origin, inner, rfl⟩
  | string | integer | float | boolean | date | array | tables => cases htable

/-- The settings about the catalog are read item by item. -/
theorem read_api_eq_some_iff (htables : HasTables fields) {api : ApiSettings} :
    readApi? (fields.get? "api") = some api ↔
      string? "http://localhost:5000" (Item.baseUrl.value? fields) = some api.baseUrl ∧
      natural? 5 (Item.connectSeconds.value? fields) = some api.connectSeconds ∧
      natural? 20 (Item.answerSeconds.value? fields) = some api.answerSeconds := by
  obtain ⟨baseUrl, connectSeconds, answerSeconds⟩ := api
  cases hvalue : fields.get? "api" with
  | none =>
      rw [@value_of_none _ .baseUrl hvalue, @value_of_none _ .connectSeconds hvalue,
        @value_of_none _ .answerSeconds hvalue]
      simp [readApi?, string?, natural?]
  | some value =>
      obtain ⟨origin, inner, rfl⟩ := exists_of_has_tables htables (by decide) hvalue
      rw [@value_of_table _ .baseUrl _ _ hvalue, @value_of_table _ .connectSeconds _ _ hvalue,
        @value_of_table _ .answerSeconds _ _ hvalue]
      simp [readApi?, members?, Item.key, Option.bind_eq_some_iff]

/-- So are those about the viewer. -/
theorem read_view_eq_some_iff (htables : HasTables fields) {view : ViewSettings} :
    readView? (fields.get? "ui") = some view ↔
      optional? (Item.detailFile.value? fields) = some view.detailFile? ∧
      natural? 50 (Item.tickMillis.value? fields) = some view.tickMillis := by
  obtain ⟨detailFile?, tickMillis⟩ := view
  cases hvalue : fields.get? "ui" with
  | none =>
      rw [@value_of_none _ .detailFile hvalue, @value_of_none _ .tickMillis hvalue]
      simp [readView?, optional?, natural?]
  | some value =>
      obtain ⟨origin, inner, rfl⟩ := exists_of_has_tables htables (by decide) hvalue
      rw [@value_of_table _ .detailFile _ _ hvalue, @value_of_table _ .tickMillis _ _ hvalue]
      simp [readView?, members?, Item.key, Option.bind_eq_some_iff]

/-- Settings are read item by item. -/
theorem of_fields_eq_some_iff (htables : HasTables fields) :
    ofFields? fields = some settings ↔
      ∀ item : Item, item.Gives (item.value? fields) (item.get? settings) := by
  have hparts : ofFields? fields = some settings ↔
      readApi? (fields.get? "api") = some settings.api ∧
        readView? (fields.get? "ui") = some settings.view := by
    obtain ⟨api, view⟩ := settings
    simp [ofFields?, Option.bind_eq_some_iff]
  rw [hparts, read_api_eq_some_iff htables, read_view_eq_some_iff htables,
    string_eq_some_iff .baseUrl rfl rfl,
    natural_eq_some_iff .connectSeconds rfl rfl,
    natural_eq_some_iff .answerSeconds rfl rfl,
    optional_eq_some_iff .detailFile rfl rfl,
    natural_eq_some_iff .tickMillis rfl rfl]
  constructor
  · rintro ⟨⟨hbaseUrl, hconnect, hanswer⟩, hdetail, htick⟩ item
    cases item with
    | baseUrl => exact hbaseUrl
    | connectSeconds => exact hconnect
    | answerSeconds => exact hanswer
    | detailFile => exact hdetail
    | tickMillis => exact htick
  · intro h
    exact ⟨⟨h .baseUrl, h .connectSeconds, h .answerSeconds⟩, h .detailFile, h .tickMillis⟩

/-- Settings are read unless there is a value that sets its item to nothing. -/
theorem exists_settings_iff (htables : HasTables fields) :
    (∃ settings, ofFields? fields = some settings) ↔ IsSound fields := by
  constructor
  · rintro ⟨settings, hsettings⟩ item value hvalue
    have hgives := (of_fields_eq_some_iff htables).1 hsettings item
    rw [hvalue] at hgives
    obtain ⟨datum, hmeans, _⟩ := hgives
    exact ⟨datum, hmeans⟩
  · intro hsound
    obtain ⟨baseUrl, hbaseUrl⟩ := exists_string rfl (hsound .baseUrl)
    obtain ⟨connectSeconds, hconnect⟩ := exists_natural rfl (hsound .connectSeconds)
    obtain ⟨answerSeconds, hanswer⟩ := exists_natural rfl (hsound .answerSeconds)
    obtain ⟨detailFile?, hdetail⟩ := exists_optional rfl (hsound .detailFile)
    obtain ⟨tickMillis, htick⟩ := exists_natural rfl (hsound .tickMillis)
    have hapi : readApi? (fields.get? "api") = some ⟨baseUrl, connectSeconds, answerSeconds⟩ :=
      (read_api_eq_some_iff htables).2 ⟨hbaseUrl, hconnect, hanswer⟩
    have hview : readView? (fields.get? "ui") = some ⟨detailFile?, tickMillis⟩ :=
      (read_view_eq_some_iff htables).2 ⟨hdetail, htick⟩
    exact ⟨⟨_, _⟩, by rw [ofFields?, hapi, hview]; rfl⟩

/-! ## Documents and the environment -/

/-- The settings of a document are those of its fields, as far as these can be read. -/
theorem load_or_default_of_has_fields {document : Document} (hfields : document.HasFields fields) :
    loadOrDefault document = (ofFields? fields).getD {} := by
  obtain ⟨text, hfile, hread⟩ := hfields
  have htext : document.text = .ok text := Document.text_eq_ok_iff.2 hfile
  unfold loadOrDefault load
  rw [htext]
  simp only [hread, Option.bind_some]
  cases ofFields? fields <;> rfl

/-- Without fields they are the defaults. -/
theorem load_or_default_of_no_fields {document : Document}
    (hnone : ∀ fields, ¬ document.HasFields fields) : loadOrDefault document = {} := by
  unfold loadOrDefault load
  cases htext : document.text with
  | error reason => rfl
  | ok text =>
      cases hread : Toml.read? text with
      | none => simp only [hread, Option.bind_none]
      | some fields => exact absurd ⟨text, Document.text_eq_ok_iff.1 htext, hread⟩ (hnone fields)

/-- The file of the settings is taken: it has these fields and all of them are in order. -/
def IsTaken (document : Document) (fields : Fields) : Prop :=
  document.HasFields fields ∧ IsSound fields

/-- What a file that is taken gives for an item. -/
theorem load_or_default_of_taken {document : Document} (htables : HasTables fields)
    (htaken : IsTaken document fields) (item : Item) :
    item.Gives (item.value? fields) (item.get? (loadOrDefault document)) := by
  obtain ⟨settings, hsettings⟩ := (exists_settings_iff htables).2 htaken.2
  rw [load_or_default_of_has_fields htaken.1, hsettings]
  exact (of_fields_eq_some_iff htables).1 hsettings item

/-- A file with one bad value gives nothing. -/
theorem load_or_default_of_not_sound {document : Document} (htables : HasTables fields)
    (hfields : document.HasFields fields) (hsound : ¬ IsSound fields) :
    loadOrDefault document = {} := by
  have hnone : ofFields? fields = none := by
    rw [Option.eq_none_iff_forall_ne_some]
    exact fun settings hsettings => hsound ((exists_settings_iff htables).1 ⟨settings, hsettings⟩)
  rw [load_or_default_of_has_fields hfields, hnone]
  rfl

/-- So does one that is not taken for any other reason. -/
theorem load_or_default_of_not_taken {document : Document}
    (htables : ∀ fields, document.HasFields fields → HasTables fields)
    (hnone : ∀ fields, ¬ IsTaken document fields) : loadOrDefault document = {} := by
  by_cases hfields : ∃ fields, document.HasFields fields
  · obtain ⟨fields, hfields⟩ := hfields
    refine load_or_default_of_not_sound (htables fields hfields) hfields ?_
    intro hsound
    exact hnone fields ⟨hfields, hsound⟩
  · exact load_or_default_of_no_fields (not_exists.1 hfields)

/-- Without a setting an item has its default. -/
theorem get_default (item : Item) : item.get? {} = item.default? := by
  cases item <;> rfl

/-- A variable of the environment that is set to something sets its item. -/
theorem get_override_of_overridden {lookup : String → Option String} {text : String}
    (h : item.IsOverridden lookup text) :
    item.get? (settings.override lookup) = some (.text text) := by
  obtain ⟨name, hname, hlookup, htext⟩ := h
  have hset : nonempty? lookup name = some text := by
    simp [nonempty?, hlookup, htext]
  cases item with
  | baseUrl =>
      cases hname
      show some (Datum.text ((nonempty? lookup "STEMMA_BASE_URL").getD _)) = _
      rw [hset]
      rfl
  | detailFile =>
      cases hname
      show (nonempty? lookup "STEMMA_METADATA_FILE" <|> _).map Datum.text = _
      rw [hset]
      rfl
  | connectSeconds | answerSeconds | tickMillis => cases hname

/-- Any other item is left as it was. -/
theorem get_override_of_not_overridden {lookup : String → Option String}
    (h : ∀ text, ¬ item.IsOverridden lookup text) :
    item.get? (settings.override lookup) = item.get? settings := by
  have hset : ∀ name, item.environmentKey? = some name → nonempty? lookup name = none := by
    intro name hname
    rw [nonempty?, Option.filter_eq_none_iff]
    intro text hlookup htext
    exact h text ⟨name, hname, hlookup, of_decide_eq_true htext⟩
  cases item with
  | baseUrl =>
      show some (Datum.text ((nonempty? lookup "STEMMA_BASE_URL").getD _)) = _
      rw [hset _ rfl]
      rfl
  | detailFile =>
      show (nonempty? lookup "STEMMA_METADATA_FILE" <|> _).map Datum.text = _
      rw [hset _ rfl]
      rfl
  | connectSeconds | answerSeconds | tickMillis => rfl

/-- An item depends on its own variable of the environment only. -/
theorem get_override_congr {lookup other : String → Option String}
    (hagree : ∀ name, item.environmentKey? = some name → other name = lookup name) :
    item.get? (settings.override other) = item.get? (settings.override lookup) := by
  have hsame : ∀ text, item.IsOverridden other text ↔ item.IsOverridden lookup text := by
    intro text
    constructor
    · rintro ⟨name, hname, hother, htext⟩
      exact ⟨name, hname, hagree name hname ▸ hother, htext⟩
    · rintro ⟨name, hname, hlookup, htext⟩
      exact ⟨name, hname, (hagree name hname).trans hlookup, htext⟩
  by_cases hoverridden : ∃ text, item.IsOverridden lookup text
  · obtain ⟨text, htext⟩ := hoverridden
    rw [get_override_of_overridden htext, get_override_of_overridden ((hsame text).2 htext)]
  · have hnot : ∀ text, ¬ item.IsOverridden lookup text := not_exists.1 hoverridden
    have hnot' : ∀ text, ¬ item.IsOverridden other text :=
      fun text htext => hnot text ((hsame text).1 htext)
    rw [get_override_of_not_overridden hnot, get_override_of_not_overridden hnot']

/-- A value sets an item to one thing only. -/
theorem gives_unique {datum? other? : Option Datum} (h : item.Gives value? datum?)
    (hother : item.Gives value? other?) : other? = datum? := by
  cases value? with
  | none =>
      have hdatum : datum? = item.default? := h
      have hother : other? = item.default? := hother
      rw [hdatum, hother]
  | some value =>
      obtain ⟨datum, hmeans, rfl⟩ := h
      obtain ⟨other, hmeans', rfl⟩ := hother
      cases hmeans <;> cases hmeans' <;> rfl

/-- What an item is set to by the environment, by the file, or by neither. -/
inductive Item.IsSetTo (item : Item) (document : Document) (lookup : String → Option String) :
    Option Datum → Prop where
  | environment {text : String} (htext : item.IsOverridden lookup text) :
      IsSetTo item document lookup (some (.text text))
  | file {fields : Fields} {value : Value} {datum : Datum}
      (hnot : ∀ text, ¬ item.IsOverridden lookup text) (htaken : IsTaken document fields)
      (hvalue : item.value? fields = some value) (hmeans : item.Means value datum) :
      IsSetTo item document lookup (some datum)
  /-- The file has no value for the item. -/
  | absent {fields : Fields} (hnot : ∀ text, ¬ item.IsOverridden lookup text)
      (htaken : IsTaken document fields) (hvalue : item.value? fields = none) :
      IsSetTo item document lookup item.default?
  /-- There is no file that is taken. -/
  | refused (hnot : ∀ text, ¬ item.IsOverridden lookup text)
      (hnone : ∀ fields, ¬ IsTaken document fields) :
      IsSetTo item document lookup item.default?

/-- Every item is set to what it should be, and to nothing else. -/
theorem get_eq_iff_is_set_to {document : Document}
    (htables : ∀ fields, document.HasFields fields → HasTables fields)
    (lookup : String → Option String) (item : Item) (datum? : Option Datum) :
    item.get? ((loadOrDefault document).override lookup) = datum? ↔
      item.IsSetTo document lookup datum? := by
  constructor
  · rintro rfl
    by_cases hoverridden : ∃ text, item.IsOverridden lookup text
    · obtain ⟨text, htext⟩ := hoverridden
      rw [get_override_of_overridden htext]
      exact .environment htext
    have hnot : ∀ text, ¬ item.IsOverridden lookup text := not_exists.1 hoverridden
    rw [get_override_of_not_overridden hnot]
    by_cases hsome : ∃ fields, IsTaken document fields
    · obtain ⟨fields, htaken⟩ := hsome
      have hgives := load_or_default_of_taken (htables fields htaken.1) htaken item
      cases hvalue : item.value? fields with
      | none =>
          rw [hvalue] at hgives
          rw [show item.get? (loadOrDefault document) = item.default? from hgives]
          exact .absent hnot htaken hvalue
      | some value =>
          rw [hvalue] at hgives
          obtain ⟨datum, hmeans, hdatum⟩ := hgives
          rw [hdatum]
          exact .file hnot htaken hvalue hmeans
    · have hnone : ∀ fields, ¬ IsTaken document fields := not_exists.1 hsome
      rw [load_or_default_of_not_taken htables hnone, get_default]
      exact .refused hnot hnone
  · intro h
    cases h with
    | environment htext => exact get_override_of_overridden htext
    | @file fields value datum hnot htaken hvalue hmeans =>
        have hgives := load_or_default_of_taken (htables fields htaken.1) htaken item
        rw [hvalue] at hgives
        have hdatum : item.Gives (some value) (some datum) := ⟨datum, hmeans, rfl⟩
        rw [get_override_of_not_overridden hnot]
        exact gives_unique hdatum hgives
    | @absent fields hnot htaken hvalue =>
        have hgives := load_or_default_of_taken (htables fields htaken.1) htaken item
        rw [hvalue] at hgives
        rw [get_override_of_not_overridden hnot]
        exact hgives
    | refused hnot hnone =>
        rw [get_override_of_not_overridden hnot, load_or_default_of_not_taken htables hnone,
          get_default]

/-- A setting comes from its variable in the environment, or else from the file, or else it has its
default, and a file with one bad value is no file. Nothing else matters to it: no other variable, no
other value in a file that is taken, and nothing in the file that is no setting. -/
theorem settings_precedence {document : Document}
    (htables : ∀ fields, document.HasFields fields → HasTables fields) :
    -- where each item comes from
    (∀ (lookup : String → Option String) (item : Item) (datum? : Option Datum),
      item.get? ((loadOrDefault document).override lookup) = datum? ↔
        item.IsSetTo document lookup datum?) ∧
    -- what does not matter to it
    (∀ (lookup other : String → Option String) (item : Item),
      (∀ name, item.environmentKey? = some name → other name = lookup name) →
      item.get? ((loadOrDefault document).override other) =
        item.get? ((loadOrDefault document).override lookup)) ∧
    (∀ (fields : Fields) (document' : Document) (fields' : Fields),
      document.HasFields fields → document'.HasFields fields' → HasTables fields' →
      (∀ item : Item, item.value? fields' = item.value? fields) →
      loadOrDefault document' = loadOrDefault document) ∧
    (∀ (fields : Fields) (document' : Document) (fields' : Fields),
      IsTaken document fields → IsTaken document' fields' → HasTables fields' →
      ∀ item : Item, item.value? fields' = item.value? fields →
        item.get? (loadOrDefault document') = item.get? (loadOrDefault document)) ∧
    -- one bad value
    (∀ fields, document.HasFields fields →
      ∀ (bad : Item) (value : Value), bad.value? fields = some value →
        (∀ datum, ¬ bad.Means value datum) → loadOrDefault document = {}) := by
  refine ⟨get_eq_iff_is_set_to htables, ?_, ?_, ?_, ?_⟩
  · intro lookup other item hagree
    exact get_override_congr hagree
  · intro fields document' fields' hfields hfields' htables' hvalues
    have hsettings : ofFields? fields' = ofFields? fields := by
      ext settings
      rw [of_fields_eq_some_iff htables', of_fields_eq_some_iff (htables fields hfields)]
      simp only [hvalues]
    rw [load_or_default_of_has_fields hfields, load_or_default_of_has_fields hfields', hsettings]
  · intro fields document' fields' htaken htaken' htables' item hvalue
    have hgives := load_or_default_of_taken (htables fields htaken.1) htaken item
    have hgives' := load_or_default_of_taken htables' htaken' item
    rw [hvalue] at hgives'
    exact gives_unique hgives hgives'
  · intro fields hfields bad value hvalue hbad
    refine load_or_default_of_not_sound (htables fields hfields) hfields fun hsound => ?_
    obtain ⟨datum, hmeans⟩ := hsound bad value hvalue
    exact hbad datum hmeans

/-- A file that sets where the catalog is and has something that is no setting. -/
def partialFile : String :=
  "[api]\nbase_url = \"https://catalog.example.com\"\nretries = 3\n[log]\nlevel = \"info\"\n"

/-- An environment that sets where the document with the details is. -/
def partialEnvironment (name : String) : Option String :=
  if name = "STEMMA_METADATA_FILE" then some "/tmp/orders.json" else none

/-- A file sets one item beside unknown ones, and an environment another: both are set to what is
said there, and a third one to its default. -/
theorem settings_precedence_of_partial_file :
    (∀ fields, (Document.file (Utf8.encode partialFile.toList)).HasFields fields →
      HasTables fields) ∧
    Item.baseUrl.IsSetTo (.file (Utf8.encode partialFile.toList)) partialEnvironment
      (some (.text "https://catalog.example.com")) ∧
    Item.detailFile.IsSetTo (.file (Utf8.encode partialFile.toList)) partialEnvironment
      (some (.text "/tmp/orders.json")) ∧
    Item.tickMillis.IsSetTo (.file (Utf8.encode partialFile.toList)) partialEnvironment
      (some (.number 50)) := by
  have htables : ∀ fields, (Document.file (Utf8.encode partialFile.toList)).HasFields fields →
      HasTables fields := by
    rintro fields ⟨text, hfile, hread⟩
    obtain rfl := utf8_encode_injective (Document.file.inj hfile)
    have hall : ∀ fields ∈ Toml.read? partialFile.toList, HasTables fields := by decide +kernel
    exact hall fields hread
  have hset := (settings_precedence htables).1 partialEnvironment
  have hread : (loadOrDefault (.file (Utf8.encode partialFile.toList))).override
      partialEnvironment =
        { api := { baseUrl := "https://catalog.example.com" }
          view := { detailFile? := some "/tmp/orders.json" } } := by
    decide +kernel
  rw [hread] at hset
  exact ⟨htables, (hset .baseUrl _).1 rfl, (hset .detailFile _).1 rfl, (hset .tickMillis _).1 rfl⟩

end Settings

end CatalogView
