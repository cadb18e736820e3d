import CatalogView.Viewer.Handle

/-!
# The keyboard of a terminal

A terminal sends a key as a character. Keys without a character of their own are sent as controls,
and so are letters that are typed while the control key is held.
-/

namespace CatalogView

/-- The key that a terminal sends as a character. -/
def KeyEvent.ofChar (c : Char) : KeyEvent :=
  if c = '\r' || c = '\n' then { code := .enter }
  else if c = '\t' then { code := .tab }
  else if c = '\x1B' then { code := .escape }
  else if c = '\x7F' then { code := .unused "backspace" }
  else if c.toNat = 0 then { code := .char ' ', control := true }
  else if c.toNat ≤ 26 then { code := .char (Char.ofNat (c.toNat + 96)), control := true }
  else if c.toNat < 32 then { code := .char (Char.ofNat (c.toNat + 24)), control := true }
  else { code := .char c, shift := c.isUpper }

namespace Viewer

/-- The viewer after keys that a terminal sends, up to the first one that quits, and whether there
is one. -/
def type (viewer : Viewer) : List Char → Viewer × Bool
  | [] => (viewer, false)
  | c :: rest =>
    match viewer.handle (.key (.ofChar c)) with
    | (viewer, true) => (viewer, true)
    | (viewer, false) => viewer.settle.refresh.type rest

end Viewer

end CatalogView
