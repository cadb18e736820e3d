/-!
# Parts of a text

Splitting a text at every occurrence of a character, and looking for a text within another.
-/

namespace CatalogView.Text

/-- Puts a character in front of the first of several texts. -/
def consFirst (c : Char) : List (List Char) → List (List Char)
  | [] => [[c]]
  | part :: parts => (c :: part) :: parts

/-- The parts of a text between the occurrences of a character. There is one part more than there
are occurrences. -/
def splitAt (mark : Char) : List Char → List (List Char)
  | [] => [[]]
  | c :: rest => if c = mark then [] :: splitAt mark rest else consFirst c (splitAt mark rest)

/-- Whether a text occurs within another. -/
def occursIn (part : List Char) : List Char → Bool
  | [] => part.isEmpty
  | c :: rest => part.isPrefixOf (c :: rest) || occursIn part rest

/-- A text has one part more than it has marks. -/
theorem length_split_at (mark : Char) (text : List Char) :
    (splitAt mark text).length = text.count mark + 1 := by
  induction text with
  | nil => rfl
  | cons c rest ih =>
      by_cases h : c = mark
      · simp [splitAt, h, ih]
      · have hparts : ∀ parts : List (List Char), parts.length = rest.count mark + 1 →
            (consFirst c parts).length = parts.length := by
          intro parts hlength
          cases parts with
          | nil => simp at hlength
          | cons => rfl
        simp [splitAt, h, hparts _ ih, ih]

/-- A text without the mark has one part. -/
theorem split_at_of_not_mem {mark : Char} {text : List Char} (h : mark ∉ text) :
    splitAt mark text = [text] := by
  induction text with
  | nil => rfl
  | cons c rest ih =>
      have hne : c ≠ mark := fun he => h (he ▸ List.mem_cons_self ..)
      rw [splitAt, if_neg hne, ih fun hmem => h (List.mem_cons_of_mem c hmem)]
      rfl

end CatalogView.Text
