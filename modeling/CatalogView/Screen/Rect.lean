/-!
# Rectangles of cells

A screen is a grid of cells, and whatever is drawn there takes up a rectangle of them. No column
or row has a number above `Rect.edge`.
-/

namespace CatalogView.Screen

/-- A rectangle of cells, by the cell at its upper left corner and its size. -/
structure Rect where
  left : Nat
  top : Nat
  width : Nat
  height : Nat
  deriving DecidableEq, Repr

namespace Rect

/-- The bound on the columns and rows of a screen. -/
def edge : Nat := 65535

/-- The rectangle with a corner and a size, as far as it does not go beyond the edge. -/
def clipped (left top width height : Nat) : Rect :=
  { left, top, width := min width (edge - left), height := min height (edge - top) }

/-- The first column to the right of the rectangle. -/
def right (r : Rect) : Nat := r.left + r.width

/-- The first row below the rectangle. -/
def bottom (r : Rect) : Nat := r.top + r.height

/-- The cell in that column and row belongs to the rectangle. -/
def Contains (r : Rect) (column row : Nat) : Prop :=
  r.left ≤ column ∧ column < r.right ∧ r.top ≤ row ∧ row < r.bottom

/-- Membership is decided by four comparisons. -/
instance (r : Rect) (column row : Nat) : Decidable (r.Contains column row) :=
  inferInstanceAs (Decidable (_ ∧ _))

/-- All cells of the first rectangle belong to the second. -/
def Within (inner outer : Rect) : Prop :=
  outer.left ≤ inner.left ∧ inner.right ≤ outer.right ∧
    outer.top ≤ inner.top ∧ inner.bottom ≤ outer.bottom

/-- The rectangle holds no cell. -/
def isEmpty (r : Rect) : Bool := r.width == 0 || r.height == 0

/-- What is left of a rectangle after one cell was taken off at each side. -/
def interior (r : Rect) : Rect :=
  { left := r.left + min 1 r.width
    top := r.top + min 1 r.height
    width := r.width - 2
    height := r.height - 2 }

/-- The part of a length that a percentage makes up, where a half counts as a whole. -/
def portion (percent length : Nat) : Nat :=
  (percent * length + 50) / 100

/-- The rectangle in the middle of another that takes up a percentage of its width and of its
height. -/
def centered (area : Rect) (widthPercent heightPercent : Nat) : Rect :=
  let before := portion ((100 - widthPercent) / 2) area.width
  let after := portion ((100 - widthPercent) / 2 + widthPercent) area.width
  let above := portion ((100 - heightPercent) / 2) area.height
  let below := portion ((100 - heightPercent) / 2 + heightPercent) area.height
  { left := area.left + before
    top := area.top + above
    width := after - before
    height := below - above }

/-- The interior of a rectangle lies within it. -/
theorem interior_within (r : Rect) : r.interior.Within r := by
  simp only [Within, interior, right, bottom]
  omega

/-- A cell of a rectangle is a cell of every rectangle that the first lies within. -/
theorem Within.contains {inner outer : Rect} (h : inner.Within outer) {column row : Nat}
    (hin : inner.Contains column row) : outer.Contains column row := by
  simp only [Within, Contains] at *
  omega

/-- A percentage of a length is no longer than the length. -/
theorem portion_le {percent : Nat} (h : percent ≤ 100) (length : Nat) :
    portion percent length ≤ length := by
  have hmul := Nat.mul_le_mul_right length h
  simp only [portion]
  omega

/-- A greater percentage makes up no shorter part. -/
theorem portion_mono {percent more : Nat} (h : percent ≤ more) (length : Nat) :
    portion percent length ≤ portion more length := by
  have hmul := Nat.mul_le_mul_right length h
  simp only [portion]
  omega

/-- A percentage and the rest make up the length, or one more if a half was counted twice. -/
theorem portion_add_rest {percent : Nat} (h : percent ≤ 100) (length : Nat) :
    length ≤ portion percent length + portion (100 - percent) length ∧
      portion percent length + portion (100 - percent) length ≤ length + 1 := by
  have hmul : percent * length + (100 - percent) * length = 100 * length := by
    rw [← Nat.add_mul, Nat.add_sub_cancel' h]
  simp only [portion]
  omega

/-- The margins of a rectangle at opposite sides of another differ by one cell at most. -/
structure IsCentredIn (inner outer : Rect) : Prop where
  left_le : inner.left - outer.left ≤ outer.right - inner.right + 1
  right_le : outer.right - inner.right ≤ inner.left - outer.left + 1
  top_le : inner.top - outer.top ≤ outer.bottom - inner.bottom + 1
  bottom_le : outer.bottom - inner.bottom ≤ inner.top - outer.top + 1

variable {widthPercent heightPercent : Nat}

/-- The rectangle in the middle of an area lies within it. -/
theorem centered_within (area : Rect) (hwidth : widthPercent ≤ 100)
    (hheight : heightPercent ≤ 100) :
    (area.centered widthPercent heightPercent).Within area := by
  have hacross := portion_mono (Nat.le_add_right ((100 - widthPercent) / 2) widthPercent) area.width
  have hdown :=
    portion_mono (Nat.le_add_right ((100 - heightPercent) / 2) heightPercent) area.height
  have hright := portion_le (show (100 - widthPercent) / 2 + widthPercent ≤ 100 by omega) area.width
  have hbottom :=
    portion_le (show (100 - heightPercent) / 2 + heightPercent ≤ 100 by omega) area.height
  simp only [Within, centered, right, bottom]
  omega

/-- What is left of a length on both sides of a percentage in its middle differs by one at most. -/
theorem portion_margins {percent : Nat} (h : percent ≤ 100) (heven : percent % 2 = 0)
    (length : Nat) :
    let before := portion ((100 - percent) / 2) length
    let after := portion ((100 - percent) / 2 + percent) length
    before ≤ after ∧ before ≤ length - after + 1 ∧ length - after ≤ before := by
  intro before after
  have hle : before ≤ after := portion_mono (Nat.le_add_right ..) length
  have hrest := portion_add_rest (show (100 - percent) / 2 ≤ 100 by omega) length
  rw [show 100 - (100 - percent) / 2 = (100 - percent) / 2 + percent by omega] at hrest
  have hsum : length ≤ before + after ∧ before + after ≤ length + 1 := hrest
  omega

/-- It is in the middle, if the percentages leave as much on both sides. -/
theorem centered_is_centred (area : Rect) (hwidth : widthPercent ≤ 100)
    (hheight : heightPercent ≤ 100) (heven : widthPercent % 2 = 0 ∧ heightPercent % 2 = 0) :
    (area.centered widthPercent heightPercent).IsCentredIn area := by
  have hacross := portion_margins hwidth heven.1 area.width
  have hdown := portion_margins hheight heven.2 area.height
  dsimp only at hacross hdown
  constructor <;> simp only [centered, right, bottom] <;> omega

end Rect

end CatalogView.Screen
