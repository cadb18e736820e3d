/-!
# Styles of cells

A cell of the screen has the terminal's own style unless something drawn there says otherwise.
-/

namespace CatalogView.Screen

/-- A color of a terminal's palette. -/
inductive Color where
  | yellow
  | red
  | cyan
  | darkGray
  deriving DecidableEq, Repr

/-- How a cell looks, where no color is the terminal's own. -/
structure Style where
  color? : Option Color := none
  isBold : Bool := false
  isUnderlined : Bool := false
  deriving DecidableEq, Repr

namespace Style

/-- The style of a cell that has one style and is drawn over with another. -/
def atop (above below : Style) : Style :=
  { color? := above.color? <|> below.color?
    isBold := above.isBold || below.isBold
    isUnderlined := above.isUnderlined || below.isUnderlined }

/-- The style of a label. -/
def label : Style := { color? := some .darkGray }

/-- The style of what leads to a page. -/
def link : Style := { color? := some .cyan, isUnderlined := true }

/-- The plain style changes nothing that it is drawn over. -/
@[simp] theorem atop_plain (below : Style) : atop {} below = below := rfl

end Style

end CatalogView.Screen
