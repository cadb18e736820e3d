import CatalogView.Table.Key
import Mathlib.Data.List.DropRight

/-!
# The grammar of resource keys

`Key.IsWellFormed` says which characters the parts of a resource key hold. Every part ends at the
first character that it cannot hold, so a text is the text of at most one well-formed key
(`text_injective`), and `parse_iff_text` says that `parse` finds exactly that key.
-/

namespace CatalogView.Text

/-- Trimming leaves nothing to trim. -/
theorem trim_trim (text : List Char) : trim (trim text) = trim text := by
  -- what is left begins as the text does whose end is trimmed, which is no blank
  have hstart : trimStart (trim text) = trim text := by
    cases hleft : trim text with
    | nil => rfl
    | cons c rest =>
        have hprefix : c :: rest <+: trimStart text := by
          rw [← hleft]
          exact List.rdropWhile_prefix isBlank (trimStart text)
        obtain ⟨back, hback⟩ := hprefix
        have hhead : (text.dropWhile isBlank).head? = some c := by
          simp [show text.dropWhile isBlank = c :: rest ++ back from hback.symm]
        have hc : isBlank c = false := by
          simpa [hhead] using List.head?_dropWhile_not isBlank text
        simp [trimStart, hc]
  calc trim (trim text) = trimEnd (trim text) := by rw [trim, hstart]
    _ = trim text := List.rdropWhile_idempotent isBlank (trimStart text)

end CatalogView.Text

namespace CatalogView.Table.Key

open CatalogView.Text

/-- A part of a resource key is not empty and holds none of some characters. -/
def IsPart (excluded : List Char) (part : String) : Prop :=
  part.toList ≠ [] ∧ ∀ c ∈ part.toList, c ∉ excluded

instance (excluded : List Char) (part : String) : Decidable (IsPart excluded part) :=
  decidable_of_iff (part.toList ≠ [] ∧ part.toList.all (· ∉ excluded) = true) (by simp [IsPart])

/-- A key whose text can be taken apart again. -/
structure IsWellFormed (key : Key) : Prop where
  database : IsPart [':', '/'] key.database
  cluster : IsPart ['.', '/'] key.cluster
  schema : IsPart ['/'] key.schema
  name : IsPart ['/'] key.name

instance (key : Key) : Decidable key.IsWellFormed :=
  decidable_of_iff (IsPart [':', '/'] key.database ∧ IsPart ['.', '/'] key.cluster ∧
      IsPart ['/'] key.schema ∧ IsPart ['/'] key.name)
    ⟨fun ⟨database, cluster, schema, name⟩ => ⟨database, cluster, schema, name⟩,
      fun h => ⟨h.database, h.cluster, h.schema, h.name⟩⟩

/-- The characters of the text of a key. -/
theorem to_list_text (key : Key) : key.text.toList =
    key.database.toList ++ ':' :: '/' :: '/' :: (key.cluster.toList ++ '.' ::
      (key.schema.toList ++ '/' :: key.name.toList)) := by
  have hmark : "://".toList = [':', '/', '/'] := by decide
  have hpoint : ".".toList = ['.'] := by decide
  have hslash : "/".toList = ['/'] := by decide
  simp [text, hmark, hpoint, hslash]

variable {first second mark : Char} {front back text : List Char}

/-- A text is split before the first of its marks. -/
theorem split_before_append (hfront : ∀ c ∈ front, c ∉ [first, second])
    (hmark : mark ∈ [first, second]) :
    splitBefore first second (front ++ mark :: back) = (front, mark :: back) := by
  have hholds : ∀ c ∈ front, decide (c ≠ first ∧ c ≠ second) = true := by simpa using hfront
  have hends : decide (mark ≠ first ∧ mark ≠ second) = false := by
    simpa [imp_iff_not_or, not_not] using hmark
  rw [splitBefore, List.takeWhile_append_of_pos hholds, List.dropWhile_append_of_pos hholds,
    List.takeWhile_cons_of_neg (by simp [hends]), List.dropWhile_cons_of_neg (by simp [hends]),
    List.append_nil]

/-- Nothing is lost when a text is split. -/
theorem eq_append_of_split_before (h : (splitBefore first second text).2 = back) :
    text = (splitBefore first second text).1 ++ back := by
  rw [← h]
  exact List.takeWhile_append_dropWhile.symm

/-- There is no mark before the one at which a text is split. -/
theorem not_mark_of_split_before {c : Char} (hc : c ∈ (splitBefore first second text).1) :
    c ∉ [first, second] := by
  simpa using List.mem_takeWhile_imp hc

/-- The text of a well-formed key is taken apart into its parts. -/
theorem of_chars_text {key : Key} (h : key.IsWellFormed) : ofChars? key.text.toList = some key := by
  obtain ⟨⟨hdatabase, hdatabaseHolds⟩, ⟨hcluster, hclusterHolds⟩, ⟨hschema, hschemaHolds⟩,
    ⟨hname, hnameHolds⟩⟩ := h
  have hschemaHolds' : ∀ c ∈ key.schema.toList, c ∉ ['/', '/'] := by simpa using hschemaHolds
  have hslash : '/' ∉ key.name.toList := fun hmem => hnameHolds _ hmem (List.mem_singleton_self _)
  rw [to_list_text]
  simp only [ofChars?, split_before_append hdatabaseHolds (List.mem_cons_self ..),
    split_before_append hclusterHolds (List.mem_cons_self ..),
    split_before_append hschemaHolds' (List.mem_cons_self ..)]
  simp [hdatabase, hcluster, hschema, hname, hslash]

/-- A text that is taken apart is the text of a well-formed key. -/
theorem of_chars_sound {key : Key} (h : ofChars? text = some key) :
    text = key.text.toList ∧ key.IsWellFormed := by
  simp only [ofChars?] at h
  split at h
  next afterDatabase hdatabase =>
    split at h
    next afterCluster hcluster =>
      split at h
      next name hschema =>
        split at h
        next => cases h
        next hparts =>
          cases h
          simp only [not_or] at hparts
          obtain ⟨hdatabaseNe, hclusterNe, hschemaNe, hnameNe, hslash⟩ := hparts
          constructor
          · simp only [to_list_text, String.toList_ofList]
            rw [← eq_append_of_split_before hschema, ← eq_append_of_split_before hcluster]
            exact eq_append_of_split_before hdatabase
          · refine ⟨⟨?_, ?_⟩, ⟨?_, ?_⟩, ⟨?_, ?_⟩, ⟨?_, ?_⟩⟩ <;>
              simp only [String.toList_ofList]
            · exact hdatabaseNe
            · exact fun c => not_mark_of_split_before
            · exact hclusterNe
            · exact fun c => not_mark_of_split_before
            · exact hschemaNe
            · exact fun c hc => by simpa using not_mark_of_split_before hc
            · exact hnameNe
            · rintro c hc hmem
              cases List.mem_singleton.1 hmem
              exact hslash hc
      next => cases h
    next => cases h
  next => cases h

/-- A resource key is accepted if and only if it is, without the blanks around it, the text of a
well-formed key. -/
theorem parse_eq_ok_iff {given : String} {key : Key} :
    parse given = .ok key ↔ trim given.toList = key.text.toList ∧ key.IsWellFormed := by
  unfold parse
  constructor
  · intro h
    split at h
    next found hfound =>
      cases h
      exact of_chars_sound hfound
    next => cases h
  · rintro ⟨htext, hwell⟩
    rw [htext, of_chars_text hwell]

/-- Well-formed keys with the same text are the same. -/
theorem text_injective {key other : Key} (hkey : key.IsWellFormed) (hother : other.IsWellFormed)
    (h : key.text = other.text) : key = other := by
  have hfound := of_chars_text hkey
  rw [h, of_chars_text hother] at hfound
  exact (Option.some.inj hfound).symm

-- Of two keys with this text only the one whose schema holds the point is well formed.
example :
    let inCluster : Key := ⟨"hive", "gold.core", "sales", "orders"⟩
    let inSchema : Key := ⟨"hive", "gold", "core.sales", "orders"⟩
    inCluster.text = inSchema.text ∧ ¬ inCluster.IsWellFormed ∧ inSchema.IsWellFormed := by
  decide

/-- The text of a key that was read has no blanks around it. -/
theorem trim_text_of_parse {given : String} {key : Key} (h : parse given = .ok key) :
    trim key.text.toList = key.text.toList := by
  rw [← (parse_eq_ok_iff.1 h).1, trim_trim]

/-- Reading resource keys and writing them are inverse to each other, up to blanks around a key.
What is accepted are the texts of well-formed keys, and what is refused is given back as it was
given. -/
theorem parse_iff_text :
    -- what is accepted, and as what
    (∀ given key, parse given = .ok key ↔
      trim given.toList = key.text.toList ∧ key.IsWellFormed) ∧
    -- all else is refused
    (∀ given, (¬ ∃ key : Key, trim given.toList = key.text.toList ∧ key.IsWellFormed) ↔
      parse given = .error ⟨given⟩) ∧
    -- a text is the text of one key only
    (∀ key other : Key, key.IsWellFormed → other.IsWellFormed → key.text = other.text →
      key = other) ∧
    -- what was read is read again from its own text
    (∀ given key, parse given = .ok key → parse key.text = .ok key) := by
  refine ⟨fun given key => parse_eq_ok_iff, fun given => ?_, fun key other => text_injective,
    fun given key h => parse_eq_ok_iff.2 ⟨trim_text_of_parse h, (parse_eq_ok_iff.1 h).2⟩⟩
  simp only [← parse_eq_ok_iff]
  unfold parse
  split <;> simp

end CatalogView.Table.Key
