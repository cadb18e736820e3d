import CatalogView.Screen.Line
import CatalogView.Screen.Rect

/-!
# The canvas

A canvas is a grid of cells to draw on. Drawing changes cells one after the other, and what is
drawn last stays. There is nothing to draw on outside the canvas: a canvas on which that is tried
is overrun, and it cannot be shown.
-/

namespace CatalogView.Screen

open CatalogView.Text

/-- A cell and what is drawn in it. -/
structure Cell where
  symbol : List Char := [' ']
  style : Style := {}
  deriving DecidableEq, Repr

/-- A grid of cells, row by row. -/
structure Canvas where
  width : Nat
  height : Nat
  cells : Array Cell
  /-- Something was to be drawn outside the grid. -/
  isOverrun : Bool := false

namespace Canvas

/-- A canvas on which nothing is drawn. -/
def blank (width height : Nat) : Canvas :=
  { width, height, cells := .replicate (width * height) {} }

/-- The whole area of a canvas. -/
def area (canvas : Canvas) : Rect :=
  { left := 0, top := 0, width := canvas.width, height := canvas.height }

/-- Changes one cell. If there is none, the canvas is overrun. -/
def change (canvas : Canvas) (column row : Nat) (f : Cell → Cell) : Canvas :=
  if column < canvas.width ∧ row < canvas.height then
    { canvas with cells := canvas.cells.modify (row * canvas.width + column) f }
  else { canvas with isOverrun := true }

/-- Draws a symbol in a cell. -/
def put (canvas : Canvas) (column row : Nat) (symbol : List Char) (style : Style) : Canvas :=
  canvas.change column row fun cell => { symbol, style := style.atop cell.style }

/-- Changes all cells of a rectangle. -/
def changeAll (canvas : Canvas) (rect : Rect) (f : Cell → Cell) : Canvas :=
  (List.range' rect.top rect.height).foldl (fun canvas row =>
    (List.range' rect.left rect.width).foldl (fun canvas column =>
      canvas.change column row f) canvas) canvas

/-- Makes all cells of a rectangle blank again. -/
def clear (canvas : Canvas) (rect : Rect) : Canvas :=
  canvas.changeAll rect fun _ => {}

/-- Gives all cells of a rectangle a style. -/
def paint (canvas : Canvas) (rect : Rect) (style : Style) : Canvas :=
  canvas.changeAll rect fun cell => { cell with style := style.atop cell.style }

/-- Draws glyphs side by side. Those that take up no room are not drawn. -/
def putGlyphs (canvas : Canvas) (column row : Nat) : List Glyph → Canvas
  | [] => canvas
  | glyph :: rest =>
    if glyph.width = 0 then canvas.putGlyphs column row rest
    else
      (canvas.put column row glyph.symbol glyph.style).putGlyphs (column + glyph.width) row rest

/-- Draws lines of glyphs one below the other, as many as the rectangle has rows. -/
def putLines (canvas : Canvas) (rect : Rect) (lines : List (List Glyph)) : Canvas :=
  ((lines.take rect.height).zipIdx rect.top).foldl
    (fun canvas (line, row) => canvas.putGlyphs rect.left row line) canvas

/-- Draws one symbol in each of some cells. -/
def putAll (canvas : Canvas) (cells : List (Nat × Nat)) (symbol : Char) (style : Style) :
    Canvas :=
  cells.foldl (fun canvas (column, row) => canvas.put column row [symbol] style) canvas

/-- Draws a border around the inside of a rectangle and a title in its top row. Where the sides
meet, the corner at the upper left is drawn last. -/
def putBorder (canvas : Canvas) (rect : Rect) (title : String) (style : Style) : Canvas :=
  if rect.isEmpty then canvas
  else
    let columns := List.range' rect.left rect.width
    let rows := List.range' rect.top rect.height
    let last := rect.right - 1
    let lowest := rect.bottom - 1
    let canvas := canvas.putAll (rows.map (rect.left, ·)) '│' style
    let canvas := canvas.putAll (columns.map (·, rect.top)) '─' style
    let canvas := canvas.putAll (rows.map (last, ·)) '│' style
    let canvas := canvas.putAll (columns.map (·, lowest)) '─' style
    let canvas := canvas.put last lowest ['┘'] style
    let canvas := canvas.put last rect.top ['┐'] style
    let canvas := canvas.put rect.left lowest ['└'] style
    let canvas := canvas.put rect.left rect.top ['┌'] style
    (title.toList.take (rect.width - 2)).zipIdx.foldl
      (fun canvas (c, i) => canvas.put (rect.left + 1 + i) rect.top [c] {}) canvas

/-- The cell that a reader sees at an index. A wide symbol covers the cell after it. -/
def seen (canvas : Canvas) (index : Nat) : Cell :=
  match (if index = 0 then none else canvas.cells[index - 1]?) with
  | some before => if 2 ≤ Text.width before.symbol then {} else canvas.cells[index]?.getD {}
  | none => canvas.cells[index]?.getD {}

/-- The cells that a reader sees in a row. -/
def row (canvas : Canvas) (row : Nat) : List Cell :=
  (List.range' (row * canvas.width) canvas.width).map canvas.seen

/-- The cells that a reader sees, row by row. -/
def rows (canvas : Canvas) : List (List Cell) :=
  (List.range canvas.height).map canvas.row

end Canvas

/-- The text of a row, without the spaces it ends with. -/
def rowText (row : List Cell) : String :=
  .ofList ((row.flatMap (·.symbol)).reverse.dropWhile (· = ' ')).reverse

/-- The runs of equally styled cells in a row that are not plain, each with its first column and
its length. -/
def styleRuns (row : List Cell) : List (Nat × Nat × Style) :=
  let runs := (row.map (·.style)).splitBy (· == ·)
  (runs.foldl
    (fun (column, found) run =>
      let style := run.head?.getD {}
      (column + run.length,
        if style = {} then found else (column, run.length, style) :: found))
    (0, [])).2.reverse

end CatalogView.Screen
