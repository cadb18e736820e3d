import CatalogView.Screen.Line
import CatalogView.Table.Filter
import CatalogView.Table.Join

/-!
# The lines of the filters and joins panels

A filter has one line, in which the columns of other tables are links. A join has a line for each
of its rows. An empty line follows each filter and each join.
-/

namespace CatalogView.View

open CatalogView.Screen CatalogView.Table

/-- A segment of a clause with the space after it. -/
def segmentSpans (segment : Segment) : List Span :=
  match segment with
  | .plain text => [{ text }, { text := " " }]
  | .link table column _ =>
    [{ text := table ++ "." ++ column, style := .link }, { text := " " }]

/-- The line of a filter on the page of the table named `viewed`. -/
def filterLine (viewed : String) (filter : Filter) : Line :=
  (filter.segments viewed).flatMap segmentSpans

/-- The lines of the filters panel. -/
def filterLines (viewed : String) (filters : List Filter) : List Line :=
  filters.flatMap fun filter => [filterLine viewed filter, []]

/-- A label with spaces after it, so that what follows stands in one column. -/
def padLabel (label : String) : String :=
  label ++ String.ofList (List.replicate (10 - label.length) ' ')

/-- The line of a row. -/
def rowLine (row : Row) : Line :=
  { text := padLabel row.label, style := .label } ::
    match row.path? with
    | some path =>
      [{ text := row.value, style := .link }, { text := "  " ++ path, style := .label }]
    | none => [{ text := row.value }]

/-- The lines of the joins panel. -/
def joinLines (joins : List Join) : List Line :=
  joins.flatMap fun join => join.rows.map rowLine ++ [[]]

end CatalogView.View
