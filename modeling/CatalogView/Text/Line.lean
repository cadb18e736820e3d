/-!
# Lines of a text

A line ends with a line feed, which takes a carriage return before it along. Nothing after the
last line feed is no line.
-/

namespace CatalogView.Text

/-- The line without the carriage return it may end with. -/
def stripReturn (line : List Char) : List Char :=
  match line.getLast? with
  | some '\r' => line.dropLast
  | _ => line

/-- The lines of a text, where `pending` holds the characters of the current line, last first. -/
def linesFrom (pending : List Char) : List Char → List (List Char)
  | [] => if pending.isEmpty then [] else [pending.reverse]
  | '\n' :: rest => stripReturn pending.reverse :: linesFrom [] rest
  | c :: rest => linesFrom (c :: pending) rest

/-- The lines of a text, without what ends them. -/
def lines (text : List Char) : List (List Char) :=
  linesFrom [] text

end CatalogView.Text
