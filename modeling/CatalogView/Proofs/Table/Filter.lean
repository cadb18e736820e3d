import CatalogView.Proofs.Text.Part
import CatalogView.Table.Filter

/-!
# What decides the segments of a filter

Every token of a clause has a segment of its own, which depends on the token and the aliases alone.
So the segments of a clause are put together from those of its parts (`segments_token_local`), and a
change of the aliases matters only where it changes which of them is the first in some token
(`segments_congr`, `first_alias_decides`). An alias is in a token if the token holds its name with a
point after it, wherever that is.
-/

namespace CatalogView.Table

open CatalogView.Text

variable {a b : Alias} {token : List Char}

/-- An alias is in a token if its name is, with a point after it. -/
theorem Alias.occurs_in_iff : a.occursIn token = true ↔ a.name.toList ++ ['.'] <:+: token :=
  Text.occurs_in_iff

/-- A token that holds an alias holds every alias whose name the name of that one ends with. -/
theorem Alias.occurs_in_of_suffix (hname : a.name.toList <:+ b.name.toList)
    (hoccurs : b.occursIn token = true) : a.occursIn token = true := by
  obtain ⟨front, hfront⟩ := hname
  have hwithin : a.name.toList ++ ['.'] <:+: b.name.toList ++ ['.'] :=
    ⟨front, [], by rw [List.append_nil, ← List.append_assoc, hfront]⟩
  exact Alias.occurs_in_iff.2 (hwithin.trans (Alias.occurs_in_iff.1 hoccurs))

namespace Filter

variable {clause viewed : String} {aliases others before between after : List Alias}

/-! ## Token by token -/

/-- The tokens of two clauses with a space between them are those of both. -/
theorem segments_append (front back : String) (aliases : List Alias) (viewed : String) :
    segments ⟨front ++ " " ++ back, aliases⟩ viewed =
      segments ⟨front, aliases⟩ viewed ++ segments ⟨back, aliases⟩ viewed := by
  have htext : (front ++ " " ++ back).toList = front.toList ++ ' ' :: back.toList := by
    rw [String.append_assoc, String.toList_append, String.toList_append]
    rfl
  show (splitAt ' ' (front ++ " " ++ back).toList).map _ = _
  rw [htext, split_at_append, List.map_append]
  rfl

/-- So the line of such a clause is that of the one and then that of the other. -/
theorem line_append (front back : String) (aliases : List Alias) (viewed : String) :
    line ⟨front ++ " " ++ back, aliases⟩ viewed =
      line ⟨front, aliases⟩ viewed ++ line ⟨back, aliases⟩ viewed := by
  unfold line
  rw [segments_append, List.map_append, String.join_append]

/-- A clause has one segment more than it has spaces. -/
theorem length_segments (filter : Filter) (viewed : String) :
    (filter.segments viewed).length = filter.clause.toList.count ' ' + 1 := by
  unfold segments
  rw [List.length_map, length_split_at]

/-- A token without an alias is shown as it is. -/
theorem token_segment_of_none (h : ∀ a ∈ aliases, ¬ a.name.toList ++ ['.'] <:+: token) :
    tokenSegment aliases viewed token = .plain (.ofList token) := by
  have hnone : aliases.find? (·.occursIn token) = none :=
    List.find?_eq_none.2 fun a ha hoccurs => h a ha (Alias.occurs_in_iff.1 hoccurs)
  unfold tokenSegment
  rw [hnone]

/-- A clause without aliases in its tokens is shown as it is, with a space after it. -/
theorem line_of_none
    (h : ∀ token ∈ splitAt ' ' clause.toList, ∀ a ∈ aliases, ¬ a.name.toList ++ ['.'] <:+: token) :
    line ⟨clause, aliases⟩ viewed = clause ++ " " := by
  have hplain : segments ⟨clause, aliases⟩ viewed =
      (splitAt ' ' clause.toList).map fun token => .plain (.ofList token) :=
    List.map_congr_left fun token htoken => token_segment_of_none (h token htoken)
  apply String.toList_inj.1
  calc (line ⟨clause, aliases⟩ viewed).toList
      = (splitAt ' ' clause.toList).flatMap (· ++ [' ']) := by
        unfold line
        rw [hplain, String.toList_join, List.map_map, List.flatMap_map]
        refine List.flatMap_congr fun token _ => ?_
        show (String.ofList token ++ " ").toList = token ++ [' ']
        rw [String.toList_append, String.toList_ofList]
        rfl
    _ = clause.toList ++ [' '] := flat_map_split_at ' ' clause.toList
    _ = (clause ++ " ").toList := by
        rw [String.toList_append]
        rfl

/-- A clause is shown token by token. Two clauses with a space between them are shown as the one and
the other are, each space begins a new segment, and a clause whose tokens hold no alias is shown as
it is, with the space that ends every token. -/
theorem segments_token_local (aliases : List Alias) (viewed : String) :
    -- two clauses with a space between them
    (∀ front back : String,
      segments ⟨front ++ " " ++ back, aliases⟩ viewed =
        segments ⟨front, aliases⟩ viewed ++ segments ⟨back, aliases⟩ viewed ∧
      line ⟨front ++ " " ++ back, aliases⟩ viewed =
        line ⟨front, aliases⟩ viewed ++ line ⟨back, aliases⟩ viewed) ∧
    -- the number of segments
    (∀ clause : String,
      (segments ⟨clause, aliases⟩ viewed).length = clause.toList.count ' ' + 1) ∧
    -- a clause in which no alias is found
    (∀ clause : String,
      (∀ token ∈ splitAt ' ' clause.toList, ∀ a ∈ aliases,
        ¬ a.name.toList ++ ['.'] <:+: token) →
      line ⟨clause, aliases⟩ viewed = clause ++ " ") := by
  refine ⟨fun front back => ⟨?_, ?_⟩, fun clause => ?_, fun clause h => line_of_none h⟩
  · exact segments_append front back aliases viewed
  · exact line_append front back aliases viewed
  · exact length_segments ⟨clause, aliases⟩ viewed

/-! ## The first alias -/

/-- Aliases lead to the same segments if the first of them in each token is the same. -/
theorem segments_congr
    (h : ∀ token ∈ splitAt ' ' clause.toList,
      aliases.find? (·.occursIn token) = others.find? (·.occursIn token)) :
    segments ⟨clause, aliases⟩ viewed = segments ⟨clause, others⟩ viewed := by
  refine List.map_congr_left fun token htoken => ?_
  unfold tokenSegment
  rw [h token htoken]

variable {found : Alias → Bool}

/-- An alias is never the first that is found if one before it is found whenever it is. -/
theorem find_of_covered (hcovers : found b = true → found a = true) :
    (before ++ a :: (between ++ b :: after)).find? found =
      (before ++ a :: (between ++ after)).find? found := by
  rw [List.find?_append, List.find?_append]
  congr 1
  by_cases ha : found a = true
  · rw [List.find?_cons_of_pos ha, List.find?_cons_of_pos ha]
  · have hb : ¬ found b = true := fun hb => ha (hcovers hb)
    rw [List.find?_cons_of_neg ha, List.find?_cons_of_neg ha, List.find?_append,
      List.find?_append, List.find?_cons_of_neg hb]

/-- Which of two aliases stands first does not matter if only one of them is found. -/
theorem find_swapped (h : ¬ (found a = true ∧ found b = true)) :
    (before ++ a :: b :: after).find? found = (before ++ b :: a :: after).find? found := by
  rw [List.find?_append, List.find?_append]
  congr 1
  by_cases ha : found a = true
  · have hb : ¬ found b = true := fun hb => h ⟨ha, hb⟩
    rw [List.find?_cons_of_pos ha, List.find?_cons_of_neg hb, List.find?_cons_of_pos ha]
  · rw [List.find?_cons_of_neg ha, List.find?_cons, List.find?_cons, List.find?_cons_of_neg ha]

/-- An alias that is not found stands anywhere without effect. -/
theorem find_without (h : ¬ found a = true) :
    (before ++ a :: after).find? found = (before ++ after).find? found := by
  rw [List.find?_append, List.find?_append, List.find?_cons_of_neg h]

/-- Of the aliases in a token only the first matters. An alias can be left out if its name ends with
the name of one before it, two aliases that stand side by side can change places unless some token
holds both, and an alias that no token holds can be put anywhere. -/
theorem first_alias_decides (clause viewed : String) (before between after : List Alias)
    (a b : Alias) :
    -- an alias that ends with one before it
    (a.name.toList <:+ b.name.toList →
      segments ⟨clause, before ++ a :: (between ++ b :: after)⟩ viewed =
        segments ⟨clause, before ++ a :: (between ++ after)⟩ viewed) ∧
    -- two aliases side by side
    (segments ⟨clause, before ++ a :: b :: after⟩ viewed ≠
        segments ⟨clause, before ++ b :: a :: after⟩ viewed →
      ∃ token ∈ splitAt ' ' clause.toList,
        a.name.toList ++ ['.'] <:+: token ∧ b.name.toList ++ ['.'] <:+: token) ∧
    -- an alias that is in no token
    ((∀ token ∈ splitAt ' ' clause.toList, ¬ a.name.toList ++ ['.'] <:+: token) →
      segments ⟨clause, before ++ a :: after⟩ viewed =
        segments ⟨clause, before ++ after⟩ viewed) := by
  refine ⟨fun hname => ?_, fun hdiffer => ?_, fun habsent => ?_⟩
  · exact segments_congr fun token _ => find_of_covered (Alias.occurs_in_of_suffix hname)
  · by_contra hnone
    refine hdiffer (segments_congr fun token htoken => find_swapped ?_)
    rintro ⟨ha, hb⟩
    exact hnone ⟨token, htoken, Alias.occurs_in_iff.1 ha, Alias.occurs_in_iff.1 hb⟩
  · refine segments_congr fun token htoken => find_without ?_
    intro hoccurs
    exact habsent token htoken (Alias.occurs_in_iff.1 hoccurs)

-- A token that holds two aliases is a column of whichever stands first.
example :
    let users : Alias := ⟨"b", ⟨"gold", "hive", "core", "users", none, none⟩⟩
    let sales : Alias := ⟨"ab", ⟨"gold", "hive", "core", "sales", none, none⟩⟩
    segments ⟨"ab.id", [users, sales]⟩ "orders" ≠ segments ⟨"ab.id", [sales, users]⟩ "orders" := by
  decide

end Filter

end CatalogView.Table
