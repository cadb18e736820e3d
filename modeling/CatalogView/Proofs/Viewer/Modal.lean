import CatalogView.Proofs.Viewer.Run

/-!
# Keys over a popup

As long as the help or an error is open no key gets through to what is under it. `Command.IsModal`
says which commands are left, whatever the key is, and `keys_over_popups` what becomes of the viewer
by any number of them: popups are hidden, the help is shown, and nothing else happens.
-/

namespace CatalogView

/-- A command that has to do with the popups alone, and does not open an error. -/
inductive Command.IsModal : Command → Prop where
  | nothing : IsModal .nothing
  | quit : IsModal .quit
  | toggleHelp : IsModal .toggleHelp
  | closeHelp : IsModal .closeHelp
  | closeError : IsModal .closeError

namespace Viewer

/-- The help or an error is shown over the panels. -/
def hasPopup (viewer : Viewer) : Bool :=
  viewer.showsHelp || viewer.showsError

variable {viewer : Viewer}

/-- Over a popup a key quits, shows or hides the help, or is left to the popup. -/
theorem command_over_popup (hopen : viewer.hasPopup = true) (event : KeyEvent) :
    (viewer.command event).IsModal ∧
      (viewer.command event = .quit ↔ event.code = .char 'q' ∧ event.control = true) := by
  unfold command Command.ofKey
  split
  case isTrue hquit => exact ⟨.quit, iff_of_true rfl hquit⟩
  case isFalse hquit =>
    split
    case isTrue => exact ⟨.toggleHelp, iff_of_false Command.noConfusion hquit⟩
    case isFalse =>
      cases hhelp : viewer.showsHelp with
      | true =>
          rcases in_help_eq event.code with hcommand | hcommand <;> rw [hcommand]
          · exact ⟨.closeHelp, iff_of_false Command.noConfusion hquit⟩
          · exact ⟨.nothing, iff_of_false Command.noConfusion hquit⟩
      | false =>
          have herror : viewer.showsError = true := by
            rwa [hasPopup, hhelp, Bool.false_or] at hopen
          rw [herror]
          rcases in_error_eq event.code with hcommand | hcommand <;> rw [hcommand]
          · exact ⟨.closeError, iff_of_false Command.noConfusion hquit⟩
          · exact ⟨.nothing, iff_of_false Command.noConfusion hquit⟩

/-- Such a command changes which popups are shown at most. -/
theorem run_modal {command : Command} (h : command.IsModal) (viewer : Viewer) :
    ∃ showsHelp showsError, viewer.run command = { viewer with showsHelp, showsError } ∧
      (showsError = true → viewer.showsError = true) := by
  cases h with
  | nothing | quit => exact ⟨_, _, rfl, id⟩
  | toggleHelp | closeHelp => exact ⟨_, viewer.showsError, rfl, id⟩
  | closeError => exact ⟨viewer.showsHelp, false, rfl, Bool.noConfusion⟩

/-- Over a popup the conversations are not asked for. -/
theorem not_reloads_over_popup (hopen : viewer.hasPopup = true) (event : KeyEvent) :
    viewer.reloads (.key event) = false := by
  cases hreload : viewer.reloads (.key event) with
  | false => rfl
  | true =>
      have hmodal := (command_over_popup hopen event).1
      rw [(command_eq_reload_iff viewer event).2 hreload] at hmodal
      cases hmodal

/-- The moves in which keys are handled one after the other. -/
def keyMoves (events : List KeyEvent) : List Move :=
  events.map fun event => .handle (.key event)

/-- A popup is open before each of the keys. -/
def StaysOpen (viewer : Viewer) : List KeyEvent → Prop
  | [] => True
  | event :: events => viewer.hasPopup = true ∧ (viewer.handle (.key event)).1.StaysOpen events

instance decidableStaysOpen :
    (viewer : Viewer) → (events : List KeyEvent) → Decidable (viewer.StaysOpen events)
  | _, [] => .isTrue trivial
  | viewer, event :: events =>
    @instDecidableAnd _ _ _ (decidableStaysOpen (viewer.handle (.key event)).1 events)

/-- A popup is open before each key up to some moment and from there on. -/
theorem stays_open_append {past rest : List KeyEvent} :
    viewer.StaysOpen (past ++ rest) ↔
      viewer.StaysOpen past ∧ (viewer.steps (keyMoves past)).StaysOpen rest := by
  induction past generalizing viewer with
  | nil => exact ⟨fun h => ⟨trivial, h⟩, And.right⟩
  | cons event past ih =>
      show _ ∧ (viewer.handle (.key event)).1.StaysOpen (past ++ rest) ↔ _
      rw [ih, ← and_assoc]
      rfl

/-- Keys over a popup leave all that is under it alone. -/
theorem steps_over_popups {events : List KeyEvent} (hopen : viewer.StaysOpen events) :
    (∃ showsHelp showsError,
      viewer.steps (keyMoves events) = { viewer with showsHelp, showsError }) ∧
    viewer.storeRun (keyMoves events) = [] := by
  induction events generalizing viewer with
  | nil => exact ⟨⟨_, _, rfl⟩, rfl⟩
  | cons event events ih =>
      obtain ⟨hpopup, hopen⟩ := hopen
      obtain ⟨⟨showsHelp, showsError, hsteps⟩, hrun⟩ := ih hopen
      obtain ⟨_, _, hstep, -⟩ := run_modal (command_over_popup hpopup event).1 viewer
      constructor
      · refine ⟨showsHelp, showsError, ?_⟩
        show (viewer.handle (.key event)).1.steps (keyMoves events) = _
        rw [hsteps]
        show { viewer.run (viewer.command event) with showsHelp, showsError } = _
        rw [hstep]
      · show (if viewer.reloads (.key event) then _ else []) ++ _ = _
        rw [not_reloads_over_popup hpopup event]
        exact hrun

/-- While a popup is open before every key, no key reaches what is under the popups: all else is as
it was, and the conversations are not asked for. No key opens an error either, and the one that
quits is the letter with the control key. -/
theorem keys_over_popups (viewer : Viewer) (events : List KeyEvent)
    (hopen : viewer.StaysOpen events) :
    -- after all keys
    (∃ showsHelp showsError,
      viewer.steps (keyMoves events) = { viewer with showsHelp, showsError }) ∧
    viewer.storeRun (keyMoves events) = [] ∧
    -- at each key
    ∀ past event rest, events = past ++ event :: rest →
      let before := viewer.steps (keyMoves past)
      ((before.handle (.key event)).2 = true ↔ event.code = .char 'q' ∧ event.control = true) ∧
        ((before.handle (.key event)).1.showsError = true → before.showsError = true) := by
  obtain ⟨hsteps, hrun⟩ := steps_over_popups hopen
  refine ⟨hsteps, hrun, ?_⟩
  rintro past event rest rfl before
  obtain ⟨-, hpopup, -⟩ := stays_open_append.1 hopen
  obtain ⟨hmodal, hquit⟩ := command_over_popup hpopup event
  obtain ⟨_, _, hstep, hkept⟩ := run_modal hmodal before
  constructor
  · show decide (before.command event = .quit) = true ↔ _
    rw [decide_eq_true_iff, hquit]
  · show (before.run (before.command event)).showsError = true → _
    rw [hstep]
    exact hkept

/-- Keys for which a popup is open when the error is shown and the help is, too: the help is closed,
opened again and closed, and then the error is. -/
def closingKeys : List KeyEvent :=
  [{ code := .char 'r' }, { code := .escape }, { code := .down }, { code := .char '?' },
    { code := .char 'q' }, { code := .escape }, { code := .enter }]

/-- None of them does anything to the panels. -/
theorem keys_over_popups_closing :
    let viewer : Viewer := { key := "orders", showsHelp := true, showsError := true }
    viewer.StaysOpen closingKeys ∧ viewer.storeRun (keyMoves closingKeys) = [] ∧
      (viewer.steps (keyMoves closingKeys)).hasPopup = false := by
  intro viewer
  have hopen : viewer.StaysOpen closingKeys := by decide
  exact ⟨hopen, (keys_over_popups viewer closingKeys hopen).2.1, by decide⟩

end Viewer

end CatalogView
