import CatalogView.Text.Part
import Mathlib.Data.List.Basic

/-!
# Splitting a text and looking within it

A text is split at every mark, whatever stands around it (`split_at_append`), and nothing is lost
when the parts are written again (`flat_map_split_at`). A text occurs within another if and only if
it is an infix of it (`occurs_in_iff`), so what is looked for can be told by the lemmas on infixes.
-/

namespace CatalogView.Text

variable {mark : Char} {part text : List Char}

/-- A text has a part. -/
theorem split_at_ne_nil (mark : Char) (text : List Char) : splitAt mark text ≠ [] := by
  intro hnil
  have hlength := length_split_at mark text
  rw [hnil, List.length_nil] at hlength
  omega

/-- Two texts with a mark between them have the parts of the one and then those of the other. -/
theorem split_at_append (mark : Char) (front back : List Char) :
    splitAt mark (front ++ mark :: back) = splitAt mark front ++ splitAt mark back := by
  induction front with
  | nil => exact if_pos rfl
  | cons c front ih =>
      obtain ⟨first, others, hparts⟩ := List.exists_cons_of_ne_nil (split_at_ne_nil mark front)
      rw [List.cons_append, splitAt, splitAt, ih, hparts]
      by_cases hc : c = mark
      · rw [if_pos hc, if_pos hc]
        rfl
      · rw [if_neg hc, if_neg hc]
        rfl

/-- The parts of a text with the mark after each of them are the text with the mark after it. -/
theorem flat_map_split_at (mark : Char) (text : List Char) :
    (splitAt mark text).flatMap (· ++ [mark]) = text ++ [mark] := by
  induction text with
  | nil => rfl
  | cons c text ih =>
      obtain ⟨first, others, hparts⟩ := List.exists_cons_of_ne_nil (split_at_ne_nil mark text)
      rw [splitAt, List.cons_append, ← ih, hparts]
      by_cases hc : c = mark
      · rw [if_pos hc, hc]
        rfl
      · rw [if_neg hc]
        rfl

/-- A text occurs within another if it is an infix of it. -/
theorem occurs_in_iff : occursIn part text = true ↔ part <:+: text := by
  induction text with
  | nil => rw [occursIn, List.isEmpty_iff, List.infix_nil]
  | cons c text ih =>
      rw [occursIn, Bool.or_eq_true, ih, List.isPrefixOf_iff_prefix, List.infix_cons_iff]

end CatalogView.Text
