import CatalogView.Proofs.Table.Detail
import CatalogView.Proofs.Viewer.Run

/-!
# The start of the viewer

At its start the viewer takes its resource key apart and looks for the details of the table where
the settings say, and either can fail. `start_whole` says what becomes of every part of the viewer:
what was found is taken over as a whole, what was not found is left as it was and reported, and the
conversations are asked for in any case.
-/

namespace CatalogView.Viewer

open CatalogView.Slack CatalogView.Table

/-- What is wrong with a resource key. -/
def keyTrouble? (key : String) : Option Trouble :=
  match Key.parse key with
  | .ok _ => none
  | .error invalid => some (.unrecognized invalid)

/-- What is wrong with the details of the table, where `read` finds the documents. -/
def detailTrouble? (settings : Settings) (read : String → Document) : Option Trouble :=
  settings.view.detailFile?.bind fun path =>
    match Detail.load (read path) with
    | .ok _ => none
    | .error error => some (.unloaded error)

/-- What is reported when the viewer is started: details that cannot be loaded, or else a key that
cannot be taken apart. -/
def startTrouble? (settings : Settings) (key : String) (read : String → Document) :
    Option Trouble :=
  (detailTrouble? settings read).or (keyTrouble? key)

/-- The details of the table, where `read` finds the documents. -/
def foundDetail? (settings : Settings) (read : String → Document) : Option Detail :=
  settings.view.detailFile?.bind fun path => (Detail.load (read path)).toOption

/-- Everything that a start changes. -/
theorem start_taken_over (viewer : Viewer) (read : String → Document) :
    viewer.start read =
      { viewer with
        table? := (Key.parse viewer.key).toOption.or viewer.table?
        detail := (foundDetail? viewer.settings read).getD viewer.detail
        error? := ((startTrouble? viewer.settings viewer.key read).map Trouble.message).or
          viewer.error?
        isFetchError := (startTrouble? viewer.settings viewer.key read).isNone &&
          viewer.isFetchError
        store := viewer.store.dispatch (.request viewer.key)
        scrolls := { viewer.scrolls with conversations := 0 } } := by
  unfold start foundDetail? startTrouble? keyTrouble? detailTrouble?
  cases Key.parse viewer.key <;> cases viewer.settings.view.detailFile? with
  | none => simp [reload, report, Trouble.isOfFetch, Except.toOption, Scrolls.set]
  | some path =>
      cases hload : Detail.load (read path) <;>
        simp [hload, reload, report, Trouble.isOfFetch, Except.toOption, Scrolls.set]

/-! ## What is looked for -/

/-- The settings name a document that has the details, where `read` finds the documents. -/
def FindsDetail (settings : Settings) (read : String → Document) (detail : Detail) : Prop :=
  ∃ path, settings.view.detailFile? = some path ∧ HasDetail (read path) detail

/-- The settings name a document that has none. -/
def MissesDetail (settings : Settings) (read : String → Document) (error : LoadError) : Prop :=
  ∃ path, settings.view.detailFile? = some path ∧ LacksDetail (read path) error

variable {settings : Settings} {read : String → Document}

/-- The details that are found are those of the document. -/
theorem found_detail_eq_some_iff {detail : Detail} :
    foundDetail? settings read = some detail ↔ FindsDetail settings read detail := by
  unfold foundDetail? FindsDetail
  simp only [Option.bind_eq_some_iff, ← Detail.load_eq_ok_iff]
  refine exists_congr fun path => and_congr_right fun _ => ?_
  cases Detail.load (read path) <;> simp [Except.toOption]

/-- What is wrong with the details is that the document has none. -/
theorem detail_trouble_eq_some_iff {trouble : Trouble} :
    detailTrouble? settings read = some trouble ↔
      ∃ error, MissesDetail settings read error ∧ trouble = .unloaded error := by
  unfold detailTrouble? MissesDetail
  simp only [Option.bind_eq_some_iff, ← Detail.load_eq_error_iff]
  constructor
  · rintro ⟨path, hpath, h⟩
    cases hload : Detail.load (read path) with
    | ok detail => simp [hload] at h
    | error error =>
        rw [hload] at h
        cases h
        exact ⟨error, ⟨path, hpath, hload⟩, rfl⟩
  · rintro ⟨error, ⟨path, hpath, hload⟩, rfl⟩
    exact ⟨path, hpath, by rw [hload]⟩

/-- A document that the settings name has the details or has none, and no other is looked at. -/
theorem finds_or_misses_iff :
    settings.view.detailFile?.isSome = true ↔
      (∃ detail, FindsDetail settings read detail) ∨
        ∃ error, MissesDetail settings read error := by
  rw [Option.isSome_iff_exists]
  constructor
  · rintro ⟨path, hpath⟩
    cases hload : Detail.load (read path) with
    | ok detail => exact .inl ⟨detail, path, hpath, Detail.load_eq_ok_iff.1 hload⟩
    | error error => exact .inr ⟨error, path, hpath, Detail.load_eq_error_iff.1 hload⟩
  · rintro (⟨_, path, hpath, _⟩ | ⟨_, path, hpath, _⟩)
    · exact ⟨path, hpath⟩
    · exact ⟨path, hpath⟩

/-- Nothing is wrong with the details if no document is named or the one that is has them. -/
theorem detail_trouble_eq_none_iff :
    detailTrouble? settings read = none ↔ ∀ error, ¬ MissesDetail settings read error := by
  rw [Option.eq_none_iff_forall_ne_some]
  simp only [ne_eq, detail_trouble_eq_some_iff]
  exact ⟨fun h error hmisses => h _ ⟨error, hmisses, rfl⟩,
    fun h trouble ⟨error, hmisses, _⟩ => h error hmisses⟩

variable {key : String}

/-- What is wrong with a key that cannot be taken apart. -/
theorem key_trouble_of_ne (h : ∀ parts, Key.parse key ≠ .ok parts) :
    keyTrouble? key = some (.unrecognized ⟨key⟩) := by
  unfold keyTrouble?
  unfold Key.parse at h ⊢
  cases hparts : Key.ofChars? (Text.trim key.toList) with
  | none => rfl
  | some parts => exact absurd (by rw [hparts]) (h parts)

/-- Nothing is wrong with a key that can. -/
theorem key_trouble_of_ok {parts : Key} (h : Key.parse key = .ok parts) :
    keyTrouble? key = none := by
  unfold keyTrouble?
  rw [h]

/-- What is wrong with the details comes first. -/
theorem start_trouble_of_misses {error : LoadError} (h : MissesDetail settings read error) :
    startTrouble? settings key read = some (.unloaded error) := by
  rw [startTrouble?, detail_trouble_eq_some_iff.2 ⟨error, h, rfl⟩]
  rfl

/-- What is wrong with the key is left if nothing is wrong with the details. -/
theorem start_trouble_of_key (h : ∀ error, ¬ MissesDetail settings read error) :
    startTrouble? settings key read = keyTrouble? key := by
  rw [startTrouble?, detail_trouble_eq_none_iff.2 h]
  rfl

/-! ## What is taken over -/

variable {viewer : Viewer}

/-- A request is sent to a watcher that runs, behind what was sent before. -/
theorem start_inbox (hruns : viewer.store.watcher.isRunning = true) :
    (viewer.start read).store.watcher.inbox =
      viewer.store.watcher.inbox ++ [.request viewer.key] := by
  rw [start_taken_over]
  show (viewer.store.watcher.send (.request viewer.key)).inbox = _
  rw [Watcher.send, if_pos hruns]

/-- The parts of a key that can be taken apart are taken over. -/
theorem start_table_of_ok {parts : Key} (h : Key.parse viewer.key = .ok parts) :
    (viewer.start read).table? = some parts := by
  rw [start_taken_over, h]
  rfl

/-- Those of another key are not known, and what was known stays. -/
theorem start_table_of_ne (h : ∀ parts, Key.parse viewer.key ≠ .ok parts) :
    (viewer.start read).table? = viewer.table? := by
  rw [start_taken_over]
  cases hparse : Key.parse viewer.key with
  | ok parts => exact absurd hparse (h parts)
  | error invalid => rfl

/-- Details that are found are taken over. -/
theorem start_detail_of_finds {detail : Detail} (h : FindsDetail viewer.settings read detail) :
    (viewer.start read).detail = detail := by
  rw [start_taken_over, found_detail_eq_some_iff.2 h]
  rfl

/-- If none are found those that were known stay. -/
theorem start_detail_of_none (h : ∀ detail, ¬ FindsDetail viewer.settings read detail) :
    (viewer.start read).detail = viewer.detail := by
  have hnone : foundDetail? viewer.settings read = none :=
    Option.eq_none_iff_forall_ne_some.2 fun detail hfound =>
      h detail (found_detail_eq_some_iff.1 hfound)
  rw [start_taken_over, hnone]
  rfl

/-- What is wrong is the error after the start, which is not one of a fetch. -/
theorem start_error_of_some {trouble : Trouble}
    (h : startTrouble? viewer.settings viewer.key read = some trouble) :
    (viewer.start read).error? = some trouble.message ∧
      (viewer.start read).isFetchError = false := by
  rw [start_taken_over, h]
  exact ⟨rfl, rfl⟩

/-- If nothing is wrong the error stays that was there. -/
theorem start_error_of_none (h : startTrouble? viewer.settings viewer.key read = none) :
    (viewer.start read).error? = viewer.error? ∧
      (viewer.start read).isFetchError = viewer.isFetchError := by
  rw [start_taken_over, h]
  exact ⟨rfl, rfl⟩

/-- At its start the viewer takes over what is found as a whole, leaves alone what is not found, and
asks for the conversations once whatever is wrong. What is wrong with the details is reported, or
else what is wrong with the key, and not as an error of a fetch. Nothing else changes but that the
conversations are shown from their beginning. -/
theorem start_whole (viewer : Viewer) (read : String → Document) :
    let started := viewer.start read
    -- the request
    started.store = viewer.store.dispatch (.request viewer.key) ∧
    (viewer.store.watcher.isRunning = true →
      started.store.watcher.inbox = viewer.store.watcher.inbox ++ [.request viewer.key]) ∧
    -- the parts of the table
    (∀ key, Key.parse viewer.key = .ok key → started.table? = some key) ∧
    ((∀ key, Key.parse viewer.key ≠ .ok key) → started.table? = viewer.table?) ∧
    -- the details of the table
    (viewer.settings.view.detailFile?.isSome = true ↔
      (∃ detail, FindsDetail viewer.settings read detail) ∨
        ∃ error, MissesDetail viewer.settings read error) ∧
    (∀ detail, FindsDetail viewer.settings read detail → started.detail = detail) ∧
    ((∀ detail, ¬ FindsDetail viewer.settings read detail) → started.detail = viewer.detail) ∧
    -- the error
    (∀ error, MissesDetail viewer.settings read error →
      started.error? = some ("Failed to load table metadata: " ++ error.message) ∧
      started.isFetchError = false) ∧
    ((∀ error, ¬ MissesDetail viewer.settings read error) →
      ((∀ key, Key.parse viewer.key ≠ .ok key) →
        started.error? =
          some ("Unrecognized table key: " ++ ("Invalid table key: " ++ viewer.key)) ∧
        started.isFetchError = false) ∧
      ((∃ key, Key.parse viewer.key = .ok key) →
        started.error? = viewer.error? ∧ started.isFetchError = viewer.isFetchError)) ∧
    -- all else
    started = { viewer with
      table? := started.table?
      detail := started.detail
      error? := started.error?
      isFetchError := started.isFetchError
      store := started.store
      scrolls := { viewer.scrolls with conversations := 0 } } := by
  intro started
  have hstarted : started = _ := start_taken_over viewer read
  refine ⟨?_, start_inbox, fun key hkey => ?_, fun hnone => ?_, finds_or_misses_iff,
    fun detail hfinds => ?_, fun hnone => ?_, fun error hmisses => ?_,
    fun hnone => ⟨fun hinvalid => ?_, fun ⟨key, hkey⟩ => ?_⟩, ?_⟩
  · rw [hstarted]
  · exact start_table_of_ok hkey
  · exact start_table_of_ne hnone
  · exact start_detail_of_finds hfinds
  · exact start_detail_of_none hnone
  · exact start_error_of_some (start_trouble_of_misses hmisses)
  · exact start_error_of_some ((start_trouble_of_key hnone).trans (key_trouble_of_ne hinvalid))
  · exact start_error_of_none ((start_trouble_of_key hnone).trans (key_trouble_of_ok hkey))
  · rw [hstarted]

-- Of two things that are wrong the details are reported, and neither keeps the request back.
example :
    let viewer : Viewer := { key := "orders", settings := { view := { detailFile? := some "f" } } }
    let started := viewer.start fun _ => .directory
    started.error? = some ("Failed to load table metadata: " ++
        "Failed to read metadata: Is a directory (os error 21)") ∧
      started.store.watcher.inbox = [.request "orders"] := by
  decide

end CatalogView.Viewer
