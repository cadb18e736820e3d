import CatalogView.Viewer.Basic
import CatalogView.Viewer.Event

/-!
# How the viewer reacts to events

A key gives a command. Which command it is depends on whether the help or an error is shown: they
take all keys for themselves but the one that always quits and the one that shows or hides the
help. The mouse acts on the panel under it.
-/

namespace CatalogView

open CatalogView.Screen

/-- What a key can tell the viewer to do. -/
inductive Command where
  | nothing
  | quit
  | toggleHelp
  | closeHelp
  | openError
  | closeError
  | reload
  | focusNext
  | focusPrevious
  /-- Scrolls the panel that has the focus. -/
  | scroll (lines : Int)
  /-- Makes the side narrower. -/
  | narrow (columns : Int)
  deriving DecidableEq, Repr

namespace Command

/-- The number of lines of a page. -/
def page : Int := 10

/-- The number of columns by which a key changes the width of the side. -/
def sideStep : Int := 2

/-- The command that a key gives while the help is shown. -/
def inHelp : KeyCode → Command
  | .escape => .closeHelp
  | _ => .nothing

/-- The command that a key gives while an error is shown. -/
def inError : KeyCode → Command
  | .escape | .enter | .char 'E' => .closeError
  | _ => .nothing

/-- The command that a key gives while neither the help nor an error is shown. -/
def inPanels : KeyCode → Command
  | .char 'q' => .quit
  | .char 'r' => .reload
  | .char 'E' => .openError
  | .tab => .focusNext
  | .backTab => .focusPrevious
  | .up => .scroll (-1)
  | .down => .scroll 1
  | .pageUp => .scroll (-page)
  | .pageDown => .scroll page
  | .char '<' => .narrow (-sideStep)
  | .char '>' => .narrow sideStep
  | _ => .nothing

/-- The command that a key gives. Of the keys held with it only one counts, and only for the
letter that quits. -/
def ofKey (showsHelp showsError : Bool) (event : KeyEvent) : Command :=
  if event.code = .char 'q' ∧ event.control then .quit
  else if event.code = .char '?' then .toggleHelp
  else if showsHelp then inHelp event.code
  else if showsError then inError event.code
  else inPanels event.code

end Command

namespace Viewer

/-- The viewer after a command. -/
def run (viewer : Viewer) : Command → Viewer
  | .nothing | .quit => viewer
  | .toggleHelp => { viewer with showsHelp := !viewer.showsHelp }
  | .closeHelp => { viewer with showsHelp := false }
  | .openError => if viewer.error?.isSome then { viewer with showsError := true } else viewer
  | .closeError => { viewer with showsError := false }
  | .reload => viewer.reload
  | .focusNext => { viewer with focus := viewer.focus.next }
  | .focusPrevious => { viewer with focus := viewer.focus.previous }
  | .scroll lines => { viewer with scrolls := viewer.scrolls.move viewer.focus lines }
  | .narrow columns => { viewer with arrangement := viewer.arrangement.narrow columns }

/-- The command that a key gives in the viewer's state. -/
def command (viewer : Viewer) (event : KeyEvent) : Command :=
  .ofKey viewer.showsHelp viewer.showsError event

/-- The number of lines by which the wheel of the mouse scrolls. -/
def notch : Int := 3

/-- The viewer after something was done with the mouse. A click gives the panel under it the
focus, and the wheel scrolls that panel. -/
def point (viewer : Viewer) (event : MouseEvent) : Viewer :=
  match (viewer.arrangement.panelAt? event.column event.row).bind Panel.focus? with
  | none => viewer
  | some focus =>
    match event.action with
    | .press .left => { viewer with focus }
    | .scrollDown => { viewer with scrolls := viewer.scrolls.move focus notch }
    | .scrollUp => { viewer with scrolls := viewer.scrolls.move focus (-notch) }
    | _ => viewer

/-- The viewer after an event, and whether it quits. -/
def handle (viewer : Viewer) : Event → Viewer × Bool
  | .key event =>
    let command := viewer.command event
    (viewer.run command, command = .quit)
  | .mouse event => (viewer.point event, false)
  | _ => (viewer, false)

end Viewer

end CatalogView
