import CatalogView.Text.Line
import Mathlib.Data.List.Basic

/-!
# What the lines of a text are

`HasLines` says how a text is made of its lines and of what ends them, a line feed with a carriage
return before it or without one, and `has_lines_iff` that `lines` finds exactly these.
-/

namespace CatalogView.Text

/-- The text is made of lines. Each of them is ended, and only the last may go without. -/
inductive HasLines : List Char → List (List Char) → Prop where
  | nil : HasLines [] []
  | last {line : List Char} (hne : line ≠ []) (hline : '\n' ∉ line) : HasLines line [line]
  | feed {line rest : List Char} {others : List (List Char)} (hline : '\n' ∉ line)
      (hreturn : line.getLast? ≠ some '\r') (hrest : HasLines rest others) :
      HasLines (line ++ '\n' :: rest) (line :: others)
  | returnFeed {line rest : List Char} {others : List (List Char)} (hline : '\n' ∉ line)
      (hrest : HasLines rest others) : HasLines (line ++ '\r' :: '\n' :: rest) (line :: others)

variable {line text : List Char}

/-- A line that does not end with a carriage return is left as it is. -/
theorem strip_return_of_ne (h : line.getLast? ≠ some '\r') : stripReturn line = line := by
  unfold stripReturn
  split
  next hlast => exact absurd hlast h
  next => rfl

/-- The carriage return that a line ends with is taken off. -/
theorem strip_return_append (line : List Char) : stripReturn (line ++ ['\r']) = line := by
  unfold stripReturn
  rw [List.getLast?_concat]
  exact List.dropLast_concat

/-- A character that is no line feed belongs to the current line. -/
theorem lines_from_cons {c : Char} (hc : c ≠ '\n') (pending rest : List Char) :
    linesFrom pending (c :: rest) = linesFrom (c :: pending) rest := by
  rw [linesFrom]
  exact fun h => hc h

/-- The current line goes on up to the first line feed. -/
theorem lines_from_append (hline : '\n' ∉ line) (pending rest : List Char) :
    linesFrom pending (line ++ '\n' :: rest) =
      stripReturn (pending.reverse ++ line) :: lines rest := by
  induction line generalizing pending with
  | nil =>
      rw [List.append_nil, List.nil_append, linesFrom]
      rfl
  | cons c line ih =>
      rw [List.mem_cons, not_or] at hline
      obtain ⟨hc, hline⟩ := hline
      rw [List.cons_append, lines_from_cons (Ne.symm hc), ih hline, List.reverse_cons,
        List.append_assoc]
      rfl

/-- Without a line feed it goes on up to the end. -/
theorem lines_from_last (hline : '\n' ∉ line) {pending : List Char}
    (hne : pending.reverse ++ line ≠ []) : linesFrom pending line = [pending.reverse ++ line] := by
  induction line generalizing pending with
  | nil =>
      rw [List.append_nil] at hne ⊢
      have hpending : pending.isEmpty = false := by
        rw [List.isEmpty_eq_false_iff]
        intro hnil
        exact hne (by rw [hnil, List.reverse_nil])
      rw [linesFrom, hpending, if_neg Bool.false_ne_true]
  | cons c line ih =>
      rw [List.mem_cons, not_or] at hline
      obtain ⟨hc, hline⟩ := hline
      have happend : pending.reverse ++ c :: line = (c :: pending).reverse ++ line := by
        rw [List.reverse_cons, List.append_assoc]
        rfl
      rw [happend] at hne ⊢
      rw [lines_from_cons (Ne.symm hc), ih hline hne]

/-- The first line of a text ends at its first line feed. -/
theorem lines_append (hline : '\n' ∉ line) (rest : List Char) :
    lines (line ++ '\n' :: rest) = stripReturn line :: lines rest :=
  lines_from_append hline [] rest

/-- A text is made of the lines that are found. -/
theorem has_lines (text : List Char) : HasLines text (lines text) := by
  induction hlength : text.length using Nat.strongRecOn generalizing text with
  | _ length ih =>
    by_cases hfeed : '\n' ∈ text
    · obtain ⟨line, rest, rfl, hline⟩ := List.eq_append_cons_of_mem hfeed
      have hshorter : rest.length < length := by
        rw [← hlength, List.length_append, List.length_cons]
        omega
      have hrest := ih rest.length hshorter rest rfl
      rw [lines_append hline]
      by_cases hreturn : line.getLast? = some '\r'
      · obtain ⟨front, rfl⟩ := List.getLast?_eq_some_iff.1 hreturn
        rw [strip_return_append, List.append_assoc]
        exact .returnFeed (fun hmem => hline (List.mem_append_left _ hmem)) hrest
      · rw [strip_return_of_ne hreturn]
        exact .feed hline hreturn hrest
    · cases text with
      | nil => exact .nil
      | cons c rest =>
          have hne : c :: rest ≠ [] := List.cons_ne_nil c rest
          have hlines : lines (c :: rest) = [c :: rest] := lines_from_last hfeed hne
          rw [hlines]
          exact .last hne hfeed

/-- A text is made of certain lines if and only if these are found. -/
theorem has_lines_iff {parts : List (List Char)} : HasLines text parts ↔ lines text = parts := by
  constructor
  · intro h
    induction h with
    | nil => rfl
    | last hne hline => exact lines_from_last hline hne
    | feed hline hreturn _ ih => rw [lines_append hline, strip_return_of_ne hreturn, ih]
    | @returnFeed line rest others hline _ ih =>
        have hreturn : '\n' ∉ line ++ ['\r'] := by
          rw [List.mem_append, not_or]
          exact ⟨hline, by decide⟩
        have happend : line ++ '\r' :: '\n' :: rest = (line ++ ['\r']) ++ '\n' :: rest :=
          List.append_cons line '\r' ('\n' :: rest)
        rw [happend, lines_append hreturn, strip_return_append, ih]
  · rintro rfl
    exact has_lines text

-- An empty line is one, and a return belongs to its end only where a line feed follows.
example : HasLines "a\r\n\nb\r".toList ["a".toList, [], "b\r".toList] :=
  has_lines_iff.2 (by decide)

end CatalogView.Text
