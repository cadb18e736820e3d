/-!
# Events of the terminal

What a person does at the terminal, as far as the viewer tells it apart.
-/

namespace CatalogView

/-- A key of the keyboard. -/
inductive KeyCode where
  | char (c : Char)
  | tab
  | backTab
  | up
  | down
  | pageUp
  | pageDown
  | escape
  | enter
  /-- A key that means nothing to the viewer. -/
  | unused (name : String)
  deriving DecidableEq, Repr

/-- Whether a key went down, came up or was held. -/
inductive KeyMotion where
  | press
  | release
  | hold
  deriving DecidableEq, Repr

/-- A key and the keys held with it. -/
structure KeyEvent where
  code : KeyCode
  control : Bool := false
  shift : Bool := false
  alt : Bool := false
  motion : KeyMotion := .press
  deriving DecidableEq, Repr

/-- A button of the mouse. -/
inductive MouseButton where
  | left
  | middle
  | right
  deriving DecidableEq, Repr

/-- What is done with the mouse. -/
inductive MouseAction where
  | press (button : MouseButton)
  | release (button : MouseButton)
  | drag (button : MouseButton)
  | move
  | scrollUp
  | scrollDown
  | scrollLeft
  | scrollRight
  deriving DecidableEq, Repr

/-- Something done with the mouse at a cell. -/
structure MouseEvent where
  action : MouseAction
  column : Nat
  row : Nat
  deriving DecidableEq, Repr

/-- An event of the terminal. -/
inductive Event where
  | key (event : KeyEvent)
  | mouse (event : MouseEvent)
  | focusGained
  | focusLost
  | paste (text : String)
  | resize (width height : Nat)
  deriving DecidableEq, Repr

end CatalogView
