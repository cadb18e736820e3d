import CatalogView.Screen.Line
import CatalogView.Viewer.Basic

/-!
# The bars and the texts of the popups

The bar at the top names the table, and the bar at the bottom tells how the last fetch went and
which keys there are.
-/

namespace CatalogView.View

open CatalogView.Screen

/-- The line of the bar at the top. -/
def topBarLine (viewer : Viewer) : Line :=
  let (name, path) :=
    match viewer.table? with
    | some key => (key.table.qualifiedName, key.path)
    | none => (viewer.key, "")
  [{ text := s!" ● {name} ", style := { isBold := true } }, { text := path, style := .label }]

/-- How the last fetch went. -/
def fetchStatus (feed : Slack.Feed) : String :=
  if feed.isLoading then "loading"
  else
    match feed.status? with
    | some status => s!"status {status}"
    | none => "no response"

/-- The text of the bar at the bottom. -/
def statusBarText (viewer : Viewer) : String :=
  let error := if viewer.error?.isSome then "   ⚠ error [E]" else ""
  s!" {fetchStatus viewer.store.feed}{error}" ++
    "   [Tab] focus   [r] reload   [?] help   [q] quit"

/-- The title of the help. -/
def helpTitle : String := " Help - Press ? to close "

/-- The help: what keys and mouse do. -/
def helpText : String :=
  "Keyboard Shortcuts:

Navigation:
  Tab / Shift+Tab   Next/previous panel
  ↑ / ↓             Scroll focused panel
  PgUp / PgDn       Scroll by a page
  < / >             Resize side panels
  Click             Focus panel

Data:
  r                 Reload conversations

General:
  ?                 Toggle this help
  Shift + E         Show latest error details
  q / Ctrl + Q      Quit

Mouse:
  Scroll            Scroll panel under cursor
"

/-- The title of the popup with the last error. -/
def errorTitle : String := " Error Details "

/-- The text of the popup with the last error. -/
def errorText (error? : Option String) : String :=
  error?.getD "No error details available." ++ "\n\n[Esc] or [Enter] to close"

end CatalogView.View
