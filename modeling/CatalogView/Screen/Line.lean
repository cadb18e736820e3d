import CatalogView.Screen.Style
import CatalogView.Text.Blank
import CatalogView.Text.Cluster
import CatalogView.Text.Line
import CatalogView.Text.Width

/-!
# Lines of styled text

What a panel shows are lines, which consist of spans that have one style each. A line is drawn
glyph by glyph: a glyph is a grapheme cluster of a span. No glyph reaches from one span into the
next, and a line feed is none.
-/

namespace CatalogView.Screen

open CatalogView.Text

/-- A text in one style. -/
structure Span where
  text : String
  style : Style := {}
  deriving DecidableEq, Repr

/-- What is drawn in one cell, or in several if it is wide. -/
structure Glyph where
  symbol : List Char
  width : Nat
  style : Style
  deriving DecidableEq, Repr

/-- A line can be broken at the glyph. A space that forbids breaks does not count. -/
def Glyph.isBreak (glyph : Glyph) : Bool :=
  glyph.symbol = ['\u200B'] || (glyph.symbol ≠ ['\u00A0'] && glyph.symbol.all isBlank)

/-- The glyphs of a span. -/
def Span.glyphs (span : Span) : List Glyph :=
  ((clusters span.text.toList).filter (· ≠ ['\n'])).map fun symbol =>
    { symbol, width := width symbol, style := span.style }

/-- A line of spans. -/
abbrev Line := List Span

namespace Line

/-- A line of one span. -/
def of (text : String) (style : Style := {}) : Line := [{ text, style }]

/-- The text of a line. -/
def text (line : Line) : String := String.join (line.map (·.text))

/-- The glyphs of a line. -/
def glyphs (line : Line) : List Glyph := line.flatMap Span.glyphs

/-- The lines of a text in the plain style. -/
def ofText (text : String) : List Line :=
  (lines text.toList).map fun line => Line.of (.ofList line)

@[simp] theorem text_nil : text [] = "" := rfl

/-- The text of a line is that of its spans, one after the other. -/
@[simp] theorem text_cons (span : Span) (line : Line) :
    text (span :: line) = span.text ++ line.text :=
  String.join_cons

/-- A line of one span has its text. -/
@[simp] theorem text_of (given : String) (style : Style) : (of given style).text = given :=
  (text_cons _ []).trans String.append_empty

/-- The text of two lines put together is that of both. -/
theorem text_append (front back : Line) : (front ++ back).text = front.text ++ back.text := by
  unfold text
  rw [List.map_append, String.join_append]

end Line

/-- The number of columns that glyphs take up side by side. -/
def glyphsWidth : List Glyph → Nat
  | [] => 0
  | glyph :: glyphs => glyph.width + glyphsWidth glyphs

end CatalogView.Screen
