import CatalogView.Screen.Line

/-!
# Fitting lines to a width

A line that is too long for its area is cut off or wrapped. Wrapping breaks it where a word ends
if there is such a place, and within a word otherwise.
-/

namespace CatalogView.Screen

/-- The glyphs of a line up to the first that does not fit, where those that never fit are left
out. -/
def cut (limit : Nat) (used : Nat) : List Glyph → List Glyph
  | [] => []
  | glyph :: rest =>
    if limit < glyph.width then cut limit used rest
    else if limit < used + glyph.width then []
    else glyph :: cut limit (used + glyph.width) rest

/-- How lines are wrapped: their greatest width, and whether blanks at the beginning of a line
are dropped. -/
structure Wrap where
  limit : Nat
  trims : Bool

/-- The state of wrapping a line. -/
structure Wrapping where
  /-- The lines that are complete, the last one first. -/
  complete : List (List Glyph) := []
  /-- The line that words are put in. -/
  line : List Glyph := []
  /-- The blanks after that line. -/
  gap : List Glyph := []
  /-- The word after those blanks. -/
  word : List Glyph := []
  /-- The last glyph belongs to a word. -/
  isInWord : Bool := false

namespace Wrapping

/-- The line together with the blanks after it, unless they are dropped. -/
def lineAndGap (state : Wrapping) (wrap : Wrap) : List Glyph :=
  if wrap.trims && state.line.isEmpty then [] else state.line ++ state.gap

/-- The word and the blanks before it cannot wait any longer for a place in the line: the word is
complete, or the line is empty and they would not fit in it with one more glyph. -/
def isDue (state : Wrapping) (wrap : Wrap) (glyph : Glyph) : Bool :=
  let word := glyphsWidth state.word
  let gap := glyphsWidth state.gap
  (state.isInWord && glyph.isBreak) ||
    (state.line.isEmpty &&
      if wrap.trims then
        wrap.limit < word + glyph.width || wrap.limit < gap + glyph.width
      else wrap.limit < word + gap + glyph.width)

/-- Puts the word and the blanks before it in the line. -/
def place (state : Wrapping) (wrap : Wrap) : Wrapping :=
  { state with line := state.lineAndGap wrap ++ state.word, gap := [], word := [] }

/-- The line cannot take one more glyph after the word. -/
def isFull (state : Wrapping) (wrap : Wrap) (glyph : Glyph) : Bool :=
  let line := glyphsWidth state.line
  wrap.limit ≤ line ||
    (0 < glyph.width &&
      wrap.limit ≤ line + glyphsWidth state.gap + glyphsWidth state.word)

/-- The blanks that are left when those that fit in the room are taken away from the front. -/
def dropFitting (room : Nat) : List Glyph → List Glyph
  | [] => []
  | glyph :: rest =>
    if room < glyph.width then glyph :: rest else dropFitting (room - glyph.width) rest

/-- Completes the line. As many blanks as fit in the room at its end are dropped. -/
def breakLine (state : Wrapping) (wrap : Wrap) : Wrapping :=
  { state with
    complete := state.line :: state.complete
    line := []
    gap := dropFitting (wrap.limit - glyphsWidth state.line) state.gap }

/-- Adds a glyph to the word or to the blanks. -/
def append (state : Wrapping) (glyph : Glyph) : Wrapping :=
  if glyph.isBreak then { state with gap := state.gap ++ [glyph], isInWord := false }
  else { state with word := state.word ++ [glyph], isInWord := true }

/-- Adds a glyph, after completing the line if it is full. A blank at which a line was broken is
dropped, and so is a glyph that is too wide for any line. -/
def step (wrap : Wrap) (state : Wrapping) (glyph : Glyph) : Wrapping :=
  if wrap.limit < glyph.width then state
  else
    let placed := if state.isDue wrap glyph then state.place wrap else state
    if placed.isFull wrap glyph then
      let broken := placed.breakLine wrap
      if glyph.isBreak && broken.gap.isEmpty then broken else broken.append glyph
    else placed.append glyph

/-- The lines when no glyph is left. There is at least one. -/
def finish (wrap : Wrap) (state : Wrapping) : List (List Glyph) :=
  let complete :=
    if state.line.isEmpty && state.word.isEmpty && !state.gap.isEmpty then [] :: state.complete
    else state.complete
  let last := state.lineAndGap wrap ++ state.word
  let all := if last.isEmpty then complete else last :: complete
  if all.isEmpty then [[]] else all.reverse

end Wrapping

/-- The lines that the glyphs of a line are wrapped to. -/
def Wrap.lines (wrap : Wrap) (glyphs : List Glyph) : List (List Glyph) :=
  (glyphs.foldl (Wrapping.step wrap) {}).finish wrap

end CatalogView.Screen
