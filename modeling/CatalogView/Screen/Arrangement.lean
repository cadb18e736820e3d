import CatalogView.Screen.Rect

/-!
# The arrangement of the screen

The screen has a bar at the top, a bar at the bottom and three panels between them: the
conversations at the left, and beside them the filters above the joins. Where there is too little
room the bar at the bottom gives way first, then the bar at the top, and the conversations keep
their least width before the side gets any.
-/

namespace CatalogView.Screen

/-- A part of the screen. -/
inductive Panel where
  | topBar
  | conversations
  | filters
  | joins
  | statusBar
  deriving DecidableEq, Repr

/-- A panel that keys can be sent to. -/
inductive Focus where
  | conversations
  | filters
  | joins
  deriving DecidableEq, Repr

namespace Focus

/-- The panel after this one, round and round. -/
def next : Focus → Focus
  | .conversations => .filters
  | .filters => .joins
  | .joins => .conversations

/-- The panel before this one, round and round. -/
def previous : Focus → Focus
  | .conversations => .joins
  | .filters => .conversations
  | .joins => .filters

/-- Going back undoes going on. -/
@[simp] theorem previous_next (focus : Focus) : focus.next.previous = focus := by
  cases focus <;> rfl

/-- Going on undoes going back. -/
@[simp] theorem next_previous (focus : Focus) : focus.previous.next = focus := by
  cases focus <;> rfl

end Focus

/-- The focus that a panel can have. The bars can have none. -/
def Panel.focus? : Panel → Option Focus
  | .conversations => some .conversations
  | .filters => some .filters
  | .joins => some .joins
  | .topBar | .statusBar => none

/-- The width the side asks for, and where the panels were when the screen was last drawn. -/
structure Arrangement where
  sideWidth : Nat := 50
  panels : List (Panel × Rect) := []
  deriving DecidableEq, Repr

namespace Arrangement

/-- The least width the side can ask for. -/
def minSideWidth : Nat := 30

/-- The greatest width the side can ask for. -/
def maxSideWidth : Nat := 90

/-- The width that the conversations keep for themselves. -/
def minMainWidth : Nat := 40

/-- The height of the bar at the top when the screen has that height. -/
def topBarHeight (height : Nat) : Nat := if height < 2 then 0 else 1

/-- The height of the bar at the bottom when the screen has that height. -/
def statusBarHeight (height : Nat) : Nat := if height < 3 then 0 else 1

/-- Where the panels are when the screen covers an area. -/
def place (sideWidth : Nat) (area : Rect) : List (Panel × Rect) :=
  let above := topBarHeight area.height
  let below := statusBarHeight area.height
  let middle := area.height - above - below
  let side := min sideWidth (area.width - minMainWidth)
  let main := area.width - side
  let upper := (middle + 1) / 2
  [(.topBar, { area with height := above }),
   (.conversations, ⟨area.left, area.top + above, main, middle⟩),
   (.filters, ⟨area.left + main, area.top + above, side, upper⟩),
   (.joins, ⟨area.left + main, area.top + above + upper, side, middle - upper⟩),
   (.statusBar, ⟨area.left, area.top + above + middle, area.width, below⟩)]

/-- Places the panels on a screen that covers an area. -/
def fit (arrangement : Arrangement) (area : Rect) : Arrangement :=
  { arrangement with panels := place arrangement.sideWidth area }

/-- Makes the side narrower by so many columns, or wider if the number is negative. -/
def narrow (arrangement : Arrangement) (columns : Int) : Arrangement :=
  let width := max (minSideWidth : Int) (min maxSideWidth (arrangement.sideWidth - columns))
  { arrangement with sideWidth := width.toNat }

/-- The panel that was last drawn at a cell. -/
def panelAt? (arrangement : Arrangement) (column row : Nat) : Option Panel :=
  (arrangement.panels.find? fun (_, rect) => rect.Contains column row).map (·.1)

end Arrangement

end CatalogView.Screen
