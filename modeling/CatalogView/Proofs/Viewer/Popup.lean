import CatalogView.Proofs.Viewer.Run

/-!
# Popups and the keys that close them

The help and the last error are drawn over the panels, and over each other if both are shown. Each
says which keys close it. What is read is the popup that was drawn last, but the keys go to the one
that was drawn first, so an error that covers the help stays when it is told to close.
`closed_iff_lowest` says for which popups the keys do what the text says, and
`error_over_help_stays` is a run to one for which they do not.
-/

namespace CatalogView

/-- A popup over the panels. -/
inductive Popup where
  | help
  | error
  deriving DecidableEq, Repr

/-- The keys that close a popup by its own text: the title of the help, or the last line of the
error. -/
def Popup.closing : Popup → List KeyCode
  | .help => [.char '?']
  | .error => [.escape, .enter]

/-- Draws a popup over what is there. -/
def Popup.put (viewer : Viewer) (canvas : Screen.Canvas) : Popup → Screen.Canvas
  | .help => View.putHelp canvas
  | .error => View.putError viewer.error? canvas

namespace Viewer

/-- The popups that are shown, in the order in which they are drawn. -/
def popups (viewer : Viewer) : List Popup :=
  (if viewer.showsHelp then [.help] else []) ++ if viewer.showsError then [.error] else []

/-- Draws the panels without the popups. -/
def drawPanels (viewer : Viewer) (canvas : Screen.Canvas) : Screen.Canvas :=
  (Screen.Arrangement.place viewer.arrangement.sideWidth canvas.area).foldl
    (fun canvas (panel, area) => View.putPanel viewer canvas panel area) canvas

/-- The popups are drawn over the panels, each over those before it. -/
theorem draw_eq_popups (viewer : Viewer) (canvas : Screen.Canvas) :
    View.draw viewer canvas =
      viewer.popups.foldl (Popup.put viewer) (viewer.drawPanels canvas) := by
  unfold View.draw popups
  cases viewer.showsHelp <;> cases viewer.showsError <;> rfl

/-- The help is shown if it is among the popups. -/
theorem help_mem_popups (viewer : Viewer) : .help ∈ viewer.popups ↔ viewer.showsHelp = true := by
  cases hhelp : viewer.showsHelp <;> cases herror : viewer.showsError <;>
    simp [popups, hhelp, herror]

/-- The error is shown if it is among the popups. -/
theorem error_mem_popups (viewer : Viewer) : .error ∈ viewer.popups ↔ viewer.showsError = true := by
  cases hhelp : viewer.showsHelp <;> cases herror : viewer.showsError <;>
    simp [popups, hhelp, herror]

/-- The error is the lowest of the popups if it is shown without the help. -/
theorem lowest_eq_error_iff (viewer : Viewer) :
    viewer.popups.head? = some .error ↔ viewer.showsHelp = false ∧ viewer.showsError = true := by
  cases hhelp : viewer.showsHelp <;> cases herror : viewer.showsError <;>
    simp [popups, hhelp, herror]

/-- The error is drawn over all else. -/
theorem topmost_of_error {viewer : Viewer} (h : viewer.showsError = true) :
    viewer.popups.getLast? = some .error := by
  simp [popups, h]

variable {viewer : Viewer} {event : KeyEvent}

/-- The key of the help shows it or hides it, whatever else is shown. -/
theorem command_of_help_key (hkey : event.code = .char '?') :
    viewer.command event = .toggleHelp := by
  simp [command, Command.ofKey, hkey]

/-- Any other key that does not quit goes to the help first. -/
theorem command_over_help {code : KeyCode} (hkey : event.code = code) (hquit : code ≠ .char 'q')
    (htoggle : code ≠ .char '?') (hhelp : viewer.showsHelp = true) :
    viewer.command event = .inHelp code := by
  simp [command, Command.ofKey, hkey, hquit, htoggle, hhelp]

/-- Without the help it goes to the error. -/
theorem command_over_error {code : KeyCode} (hkey : event.code = code) (hquit : code ≠ .char 'q')
    (htoggle : code ≠ .char '?') (hhelp : viewer.showsHelp = false)
    (herror : viewer.showsError = true) : viewer.command event = .inError code := by
  simp [command, Command.ofKey, hkey, hquit, htoggle, hhelp, herror]

/-- A key is handled by running its command. -/
theorem handle_key (viewer : Viewer) (event : KeyEvent) :
    (viewer.handle (.key event)).1 = viewer.run (viewer.command event) := rfl

/-- With the help under it the error does not get its keys: the one closes the help, and the other
does nothing. -/
theorem keys_of_error_over_help (hhelp : viewer.showsHelp = true) :
    (event.code = .escape → (viewer.handle (.key event)).1 = { viewer with showsHelp := false }) ∧
      (event.code = .enter → (viewer.handle (.key event)).1 = viewer) := by
  constructor
  · intro hkey
    rw [handle_key, command_over_help hkey nofun nofun hhelp]
    rfl
  · intro hkey
    rw [handle_key, command_over_help hkey nofun nofun hhelp]
    rfl

/-- Without the help the keys of the error close it. -/
theorem keys_of_error_alone (hhelp : viewer.showsHelp = false) (herror : viewer.showsError = true)
    (hkey : event.code ∈ Popup.error.closing) :
    (viewer.handle (.key event)).1 = { viewer with showsError := false } := by
  simp only [Popup.closing, List.mem_cons, List.not_mem_nil, or_false] at hkey
  rcases hkey with hkey | hkey
  · rw [handle_key, command_over_error hkey nofun nofun hhelp herror]
    rfl
  · rw [handle_key, command_over_error hkey nofun nofun hhelp herror]
    rfl

/-- The key of the help closes it. -/
theorem key_of_help (hhelp : viewer.showsHelp = true) (hkey : event.code ∈ Popup.help.closing) :
    (viewer.handle (.key event)).1 = { viewer with showsHelp := false } := by
  have hcode : event.code = .char '?' := List.mem_singleton.1 hkey
  rw [handle_key, command_of_help_key hcode]
  simp [run, hhelp]

/-- Popups are drawn over the panels and over each other. A key that a popup names closes it if and
only if no other popup was drawn before it. So the help is always closed as it says, and the error,
which is on top whenever it is shown, is so without the help alone. With the help under it one of
its keys closes the help instead, after which it can be closed, and the other does nothing. -/
theorem closed_iff_lowest (viewer : Viewer) :
    -- what is drawn
    (∀ canvas, View.draw viewer canvas =
      viewer.popups.foldl (Popup.put viewer) (viewer.drawPanels canvas)) ∧
    (viewer.showsError = true → viewer.popups.getLast? = some .error) ∧
    -- what the keys do that a popup names
    (∀ popup ∈ viewer.popups, ∀ event : KeyEvent, event.code ∈ popup.closing →
      (popup ∉ (viewer.handle (.key event)).1.popups ↔ viewer.popups.head? = some popup)) ∧
    -- what they do to the error
    (viewer.showsError = true → ∀ event : KeyEvent, event.code ∈ Popup.error.closing →
      ((viewer.handle (.key event)).1.showsError = false ↔ viewer.showsHelp = false) ∧
      (viewer.showsHelp = true → (event.code = .escape →
          (viewer.handle (.key event)).1 = { viewer with showsHelp := false }) ∧
        (event.code = .enter → (viewer.handle (.key event)).1 = viewer))) := by
  have herrorKeys : viewer.showsError = true → ∀ event : KeyEvent,
      event.code ∈ Popup.error.closing →
      ((viewer.handle (.key event)).1.showsError = false ↔ viewer.showsHelp = false) := by
    intro herror event hkey
    cases hhelp : viewer.showsHelp with
    | false => simp [keys_of_error_alone hhelp herror hkey]
    | true =>
        obtain ⟨hescape, henter⟩ := @keys_of_error_over_help viewer event hhelp
        simp only [Popup.closing, List.mem_cons, List.not_mem_nil, or_false] at hkey
        rcases hkey with hkey | hkey
        · simp [hescape hkey, herror]
        · simp [henter hkey, herror]
  refine ⟨draw_eq_popups viewer, topmost_of_error, ?_,
    fun herror event hkey => ⟨herrorKeys herror event hkey, keys_of_error_over_help⟩⟩
  intro popup hshown event hkey
  cases popup with
  | help =>
      have hhelp : viewer.showsHelp = true := (help_mem_popups viewer).1 hshown
      rw [help_mem_popups, key_of_help hhelp hkey]
      simp [popups, hhelp]
  | error =>
      have herror : viewer.showsError = true := (error_mem_popups viewer).1 hshown
      rw [error_mem_popups, lowest_eq_error_iff, Bool.not_eq_true, herrorKeys herror event hkey]
      simp [herror]

/-- The details of an error are shown, and then the help. -/
def helpUnderError : List Move :=
  [.start fun _ => .missing, .handle (.key { code := .char 'E' }),
    .handle (.key { code := .char '?' })]

/-- The error is drawn over the help then, and neither of the keys that it names closes it. -/
theorem error_over_help_stays :
    let viewer := ({ key := "orders" } : Viewer).steps helpUnderError
    viewer.popups = [.help, .error] ∧
      (viewer.handle (.key { code := .escape })).1.showsError = true ∧
      (viewer.handle (.key { code := .enter })).1.showsError = true := by
  decide +kernel

end Viewer

end CatalogView
