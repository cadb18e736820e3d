import CatalogView.View.Detail
import Mathlib.Data.List.Basic

/-!
# The filters panel and the filters

A filter writes its clause as one text (`Table.Filter.line`), and the panel draws it as spans
(`filterLine`). Both go over the segments, each with a format of its own. `filter_lines_agree` says
that the panel draws exactly the texts of the filters and marks exactly their links, for every list
of filters.
-/

namespace CatalogView.Table

/-- The segment leads somewhere. -/
def Segment.isLink : Segment → Bool
  | .plain _ => false
  | .link .. => true

end CatalogView.Table

namespace CatalogView.View

open CatalogView.Screen CatalogView.Table

/-! ## Spans of segments -/

/-- A segment is drawn with its text and a space. -/
theorem segment_spans_text (segment : Segment) :
    Line.text (segmentSpans segment) = segment.text ++ " " := by
  cases segment with
  | plain text =>
      rw [segmentSpans, Line.text_cons, Line.text_cons, Line.text_nil]
      rfl
  | link table column path =>
      rw [segmentSpans, Line.text_cons, Line.text_cons, Line.text_nil]
      rfl

/-- Of the spans of a segment its text is marked as a link if it is one, and the space never is. -/
theorem segment_spans_links (segment : Segment) :
    (segmentSpans segment).filter (·.style = .link) =
      if segment.isLink then [{ text := segment.text, style := .link }] else [] := by
  cases segment with
  | plain text => rfl
  | link table column path => rfl

/-- A span of a segment is a link or is plain. -/
theorem segment_spans_style {segment : Segment} {span : Span}
    (hspan : span ∈ segmentSpans segment) : span.style = .link ∨ span.style = {} := by
  cases segment with
  | plain text =>
      rcases List.mem_pair.1 hspan with rfl | rfl
      · exact .inr rfl
      · exact .inr rfl
  | link table column path =>
      rcases List.mem_pair.1 hspan with rfl | rfl
      · exact .inl rfl
      · exact .inr rfl

/-! ## The line of a filter -/

/-- Segments are drawn with the texts that are written for them. -/
theorem spans_text (segments : List Segment) :
    Line.text (segments.flatMap segmentSpans) = String.join (segments.map (·.text ++ " ")) := by
  induction segments with
  | nil => rfl
  | cons segment segments ih =>
      rw [List.flatMap_cons, Line.text_append, segment_spans_text, ih, List.map_cons,
        String.join_cons]

/-- Segments are drawn with a link for each of theirs, in the same order. -/
theorem spans_links (segments : List Segment) :
    (segments.flatMap segmentSpans).filter (·.style = .link) =
      (segments.filter (·.isLink)).map fun segment => { text := segment.text, style := .link } := by
  induction segments with
  | nil => rfl
  | cons segment segments ih =>
      rw [List.flatMap_cons, List.filter_append, segment_spans_links, ih]
      cases hlink : segment.isLink with
      | true => rw [if_pos rfl, List.filter_cons_of_pos hlink, List.map_cons, List.singleton_append]
      | false =>
          rw [if_neg Bool.false_ne_true, List.nil_append,
            List.filter_cons_of_neg (hlink ▸ Bool.false_ne_true)]

/-- What is no link in the line of a filter is plain. -/
theorem filter_line_style {viewed : String} {filter : Filter} {span : Span}
    (hspan : span ∈ filterLine viewed filter) : span.style = .link ∨ span.style = {} := by
  obtain ⟨segment, _, hspan⟩ := List.mem_flatMap.1 hspan
  exact segment_spans_style hspan

/-! ## The lines of the panel -/

/-- Each filter has two lines. -/
theorem length_filter_lines (viewed : String) (filters : List Filter) :
    (filterLines viewed filters).length = 2 * filters.length := by
  induction filters with
  | nil => rfl
  | cons filter filters ih =>
      show (filterLines viewed filters).length + 2 = 2 * (filters.length + 1)
      omega

/-- The lines of a filter stand at twice its place: its own line and an empty one. -/
theorem filter_lines_get (viewed : String) {filters : List Filter} {index : Nat} {filter : Filter}
    (hfilter : filters[index]? = some filter) :
    (filterLines viewed filters)[2 * index]? = some (filterLine viewed filter) ∧
      (filterLines viewed filters)[2 * index + 1]? = some [] := by
  induction filters generalizing index with
  | nil => cases hfilter
  | cons first filters ih =>
      cases index with
      | zero =>
          cases hfilter
          exact ⟨rfl, rfl⟩
      | succ index => exact ih hfilter

/-- The panel shows what the filters say. It has two lines for each filter, in their order: first
one with the text that the filter writes, where the links of the filter, and nothing else, are
marked as links and all else is plain, and then an empty one. -/
theorem filter_lines_agree (viewed : String) (filters : List Filter) :
    (filterLines viewed filters).length = 2 * filters.length ∧
    ∀ (index : Nat) (filter : Filter), filters[index]? = some filter → ∃ shown : Line,
      (filterLines viewed filters)[2 * index]? = some shown ∧
      (filterLines viewed filters)[2 * index + 1]? = some [] ∧
      shown.text = filter.line viewed ∧
      shown.filter (·.style = .link) =
        ((filter.segments viewed).filter (·.isLink)).map
          (fun segment => { text := segment.text, style := .link }) ∧
      ∀ span ∈ shown, span.style ≠ .link → span.style = {} := by
  refine ⟨length_filter_lines viewed filters, fun index filter hfilter => ?_⟩
  obtain ⟨hshown, hempty⟩ := filter_lines_get viewed hfilter
  refine ⟨filterLine viewed filter, hshown, hempty, ?_, ?_, ?_⟩
  · exact spans_text (filter.segments viewed)
  · exact spans_links (filter.segments viewed)
  · intro span hspan hnot
    rcases filter_line_style hspan with hlink | hplain
    · exact absurd hlink hnot
    · exact hplain

end CatalogView.View
