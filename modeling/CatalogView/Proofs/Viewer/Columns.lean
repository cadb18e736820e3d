import CatalogView.Proofs.Viewer.Run
import CatalogView.Table.Filter
import Mathlib.Data.List.Induction

/-!
# Columns that lead to other pages

A filter tells the tables of its columns apart by their names, and a viewer hands the name of its
own table on to it once the viewer has been started. `Named` says so of every moment of a run, and
`column_plain_iff_name` which columns are links: those of tables with another name. Tables of the
same name in different schemas are not told apart.
-/

namespace CatalogView.Table

open CatalogView.Text

/-- A segment that leads nowhere. -/
def Segment.IsPlain (segment : Segment) : Prop := ∃ text, segment = .plain text

/-- A link leads somewhere. -/
theorem Segment.not_plain_link (table column path : String) :
    ¬ (Segment.link table column path).IsPlain := by
  rintro ⟨text, htext⟩
  cases htext

namespace Filter

variable {filter : Filter} {index : Nat} {token : List Char} {a : Alias}

/-- A token becomes a column of the table whose alias is the first to occur in it. -/
theorem segments_of_alias (viewed : String)
    (htoken : (splitAt ' ' filter.clause.toList)[index]? = some token)
    (halias : filter.aliases.find? (·.occursIn token) = some a) :
    (filter.segments viewed)[index]? = some (columnSegment token a.table viewed) := by
  unfold segments
  rw [List.getElem?_map, htoken, Option.map_some, tokenSegment, halias]

/-- A column leads nowhere if and only if its table has the name of the table that is viewed. -/
theorem column_segment_plain (token : List Char) (table : Ref) (viewed : String) :
    (columnSegment token table viewed).IsPlain ↔ table.name = viewed := by
  unfold columnSegment
  by_cases hname : table.name = viewed
  · rw [if_pos hname]
    exact ⟨fun _ => hname, fun _ => ⟨_, rfl⟩⟩
  · rw [if_neg hname]
    exact ⟨fun hplain => absurd hplain (Segment.not_plain_link _ _ _),
      fun heq => absurd heq hname⟩

/-- A column of a table with another name leads to the page of that table. -/
theorem column_segment_link (token : List Char) {table : Ref} {viewed : String}
    (hname : table.name ≠ viewed) :
    columnSegment token table viewed = .link table.name (columnOf token) table.path :=
  if_neg hname

end Filter

end CatalogView.Table

namespace CatalogView.Viewer

open CatalogView.Table CatalogView.Text

/-- What a viewer knows of its table before and after it is started. -/
structure Named (given : String) (key : Key) (started : Bool) (viewer : Viewer) : Prop where
  given : viewer.key = given
  table : viewer.table? = if started then some key else none

variable {given : String} {key : Key} {started : Bool} {viewer next : Viewer}

/-- A viewer is called by the name of its table, or by its whole resource key before it is
started. -/
theorem Named.table_name (h : Named given key started viewer) :
    viewer.tableName = if started then key.name else given := by
  unfold tableName
  rw [h.table]
  cases started with
  | false => exact h.given
  | true => rfl

/-- The start takes the resource key apart, whatever becomes of the details. -/
theorem start_named (hkey : Key.parse given = .ok key) (hgiven : viewer.key = given)
    (read : String → Document) : Named given key true (viewer.start read) := by
  have hparse : Key.parse viewer.key = .ok key := by rw [hgiven, hkey]
  unfold start
  rw [hparse]
  cases viewer.settings.view.detailFile? with
  | none => exact ⟨hgiven, rfl⟩
  | some path =>
      cases hload : Detail.load (read path) <;>
        exact ⟨by simpa [hload, reload, report] using hgiven, by simp [hload, reload, report]⟩

/-- An event leaves what is known of the table as it is. -/
theorem Reaction.named (hreaction : Reaction viewer next) (h : Named given key started viewer) :
    Named given key started next := by
  cases hreaction with
  | look | openError | closeError | reload => exact ⟨h.given, h.table⟩

/-- So do outcomes that are taken over. -/
theorem refresh_named (h : Named given key started viewer) :
    Named given key started viewer.refresh := by
  obtain ⟨_, _, _, hrefresh⟩ := refresh_eq viewer
  rw [hrefresh]
  exact ⟨h.given, h.table⟩

/-- A start, also a later one, finds the table that the resource key names, and no other move
changes what is known of it. -/
theorem step_named (hkey : Key.parse given = .ok key) (h : Named given key started viewer)
    (move : Move) : Named given key (started || move.isStart) (viewer.step move) := by
  cases move with
  | start read =>
      show Named given key (started || true) (viewer.start read)
      rw [Bool.or_true]
      exact start_named hkey h.given read
  | handle event =>
      show Named given key (started || false) (viewer.handle event).1
      rw [Bool.or_false]
      exact (handle_reaction viewer event).named h
  | refresh =>
      show Named given key (started || false) viewer.refresh
      rw [Bool.or_false]
      exact refresh_named h
  | render | work =>
      show Named given key (started || false) _
      rw [Bool.or_false]
      exact ⟨h.given, h.table⟩

/-- At every moment of a run a new viewer knows its table if it has been started. -/
theorem steps_named (settings : Settings) (hkey : Key.parse given = .ok key) (moves : List Move) :
    Named given key (moves.any Move.isStart)
      (({ settings, key := given } : Viewer).steps moves) := by
  induction moves using List.reverseRecOn with
  | nil => exact ⟨rfl, rfl⟩
  | append_singleton moves move ih =>
      rw [steps_append_singleton, List.any_append, List.any_cons, List.any_nil, Bool.or_false]
      exact step_named hkey ih move

/-- Once a viewer has been started, and whatever happened before and after that, a column of a
filter is a link if and only if its table has another name than the one that is viewed. Then it
leads to the page of its table. A viewer that has not been started yet goes by its whole resource
key instead of the name. -/
theorem column_plain_iff_name (settings : Settings) (hkey : Key.parse given = .ok key)
    (moves : List Move) :
    let viewer := ({ settings, key := given } : Viewer).steps moves
    let viewed := if moves.any Move.isStart then key.name else given
    ∀ (filter : Filter) (index : Nat) (token : List Char) (a : Alias),
      (splitAt ' ' filter.clause.toList)[index]? = some token →
      filter.aliases.find? (·.occursIn token) = some a →
      ∃ segment, (filter.segments viewer.tableName)[index]? = some segment ∧
        (segment.IsPlain ↔ a.table.name = viewed) ∧
        (a.table.name ≠ viewed →
          segment = .link a.table.name (Filter.columnOf token) a.table.path) := by
  intro viewer viewed filter index token a htoken halias
  have hname : viewer.tableName = viewed := (steps_named settings hkey moves).table_name
  refine ⟨_, Filter.segments_of_alias viewer.tableName htoken halias, ?_, fun hother => ?_⟩
  · rw [hname]
    exact Filter.column_segment_plain token a.table viewed
  · rw [hname]
    exact Filter.column_segment_link token hother

/-- A table of another schema than the one that is viewed here, with the same name. -/
def namesake : Ref := { cluster := "gold", database := "hive", schema := "sales", name := "orders" }

/-- A condition on a column of that table. -/
def namesakeFilter : Filter := ⟨"s.total > 3", [⟨"s", namesake⟩]⟩

/-- In a viewer that has been started the column is plain by its table's name. -/
theorem column_plain_namesake :
    Key.parse "hive://gold.core/orders" = .ok ⟨"hive", "gold", "core", "orders"⟩ ∧
      ∃ segment, (namesakeFilter.segments
          (({ key := "hive://gold.core/orders" } : Viewer).steps
            [.start fun _ => .missing]).tableName)[0]? = some segment ∧ segment.IsPlain := by
  have hkey : Key.parse "hive://gold.core/orders" = .ok ⟨"hive", "gold", "core", "orders"⟩ := by
    decide
  obtain ⟨segment, hsegment, hplain, _⟩ :=
    column_plain_iff_name {} hkey [.start fun _ => .missing] namesakeFilter 0 "s.total".toList
      ⟨"s", namesake⟩ (by decide) (by decide)
  exact ⟨hkey, segment, hsegment, hplain.2 rfl⟩

/-- The column is that of another table, and still leads nowhere. -/
theorem namesake_column_without_link :
    let key : Key := ⟨"hive", "gold", "core", "orders"⟩
    let viewer := ({ key := "hive://gold.core/orders" } : Viewer).steps [.start fun _ => .missing]
    Key.parse viewer.key = .ok key ∧ namesake.schema ≠ key.schema ∧
      namesakeFilter.segments viewer.tableName =
        [.plain "orders.total", .plain ">", .plain "3"] := by
  decide

end CatalogView.Viewer
