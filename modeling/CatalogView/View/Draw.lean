import CatalogView.Screen.Canvas
import CatalogView.Screen.Wrap
import CatalogView.View.Bars
import CatalogView.View.Conversations
import CatalogView.View.Detail

/-!
# Drawing the viewer

The screen shows the five panels and over them the help and the last error, if they are asked for.
Drawing changes nothing about the viewer but where it remembers its panels to be.
-/

namespace CatalogView.View

open CatalogView.Screen

/-- The share of the screen's width that a popup takes up. -/
def popupWidth : Nat := 60

/-- The share of the screen's height that the help takes up. -/
def helpHeight : Nat := 70

/-- The share of the screen's height that the last error takes up. -/
def errorHeight : Nat := 20

/-- Draws lines that are cut off where the area ends. -/
def putCut (canvas : Canvas) (area : Rect) (lines : List Line) : Canvas :=
  if area.isEmpty then canvas
  else canvas.putLines area (lines.map fun line => cut area.width 0 line.glyphs)

/-- Draws lines that are wrapped, from the given line on. -/
def putWrapped (canvas : Canvas) (area : Rect) (trims : Bool) (skipped : Nat)
    (lines : List Line) : Canvas :=
  if area.isEmpty then canvas
  else
    let wrap : Wrap := { limit := area.width, trims }
    canvas.putLines area ((lines.flatMap fun line => wrap.lines line.glyphs).drop skipped)

/-- The title of a panel that lists something. -/
def countTitle (name : String) (count : Nat) : String := s!" {name} ({count}) "

/-- The style of a panel's border. -/
def borderStyle (viewer : Viewer) (focus : Focus) : Style :=
  if viewer.focus = focus then { color? := some .yellow } else {}

/-- The title and the lines of a panel that can have the focus. -/
def content (viewer : Viewer) : Focus → String × List Line
  | .conversations =>
    let feed := viewer.store.feed
    (countTitle "Slack conversations" feed.conversations.length, conversationLines feed)
  | .filters =>
    let filters := viewer.detail.filters
    (countTitle "Common filters" filters.length, filterLines viewer.tableName filters)
  | .joins =>
    let joins := viewer.detail.joins
    (countTitle "Common joins" joins.length, joinLines joins)

/-- Draws a panel. -/
def putPanel (viewer : Viewer) (canvas : Canvas) (panel : Panel) (area : Rect) : Canvas :=
  match panel with
  | .topBar => putCut canvas area [topBarLine viewer]
  | .statusBar => putCut (canvas.paint area .label) area [Line.of (statusBarText viewer) .label]
  | .conversations => putList .conversations
  | .filters => putList .filters
  | .joins => putList .joins
where
  /-- Draws a panel that can have the focus. -/
  putList (focus : Focus) : Canvas :=
    let (title, lines) := content viewer focus
    putWrapped (canvas.putBorder area title (borderStyle viewer focus)) area.interior false
      (viewer.scrolls.get focus) lines

/-- Draws the frame of a popup over what is there. -/
def putPopup (canvas : Canvas) (area : Rect) (title : String) : Canvas :=
  (canvas.clear area).putBorder area title {}

/-- Draws the help. -/
def putHelp (canvas : Canvas) : Canvas :=
  let area := canvas.area.centered popupWidth helpHeight
  putCut (putPopup canvas area helpTitle) area.interior (Line.ofText helpText)

/-- Draws the last error. -/
def putError (error? : Option String) (canvas : Canvas) : Canvas :=
  let area := canvas.area.centered popupWidth errorHeight
  putWrapped (putPopup canvas area errorTitle) area.interior true 0
    (Line.ofText (errorText error?))

/-- Draws the viewer on a canvas. -/
def draw (viewer : Viewer) (canvas : Canvas) : Canvas :=
  let panels := Arrangement.place viewer.arrangement.sideWidth canvas.area
  let drawn := panels.foldl (fun canvas (panel, area) => putPanel viewer canvas panel area) canvas
  let helped := if viewer.showsHelp then putHelp drawn else drawn
  if viewer.showsError then putError viewer.error? helped else helped

end CatalogView.View

namespace CatalogView.Viewer

open CatalogView.Screen

/-- Draws the viewer on a screen with a size. -/
def render (viewer : Viewer) (width height : Nat) : Viewer × Canvas :=
  let canvas := Canvas.blank width height
  ({ viewer with arrangement := viewer.arrangement.fit canvas.area }, View.draw viewer canvas)

end CatalogView.Viewer
