import CatalogView.Proofs.Text.Part
import CatalogView.Proofs.Url.Percent
import CatalogView.Url.Parse

/-!
# Segments that a path gives back

A path is split at its slashes, its segments are escaped, and places such as `..` are taken out.
None of this adds anything: `read_count_read_segments` says that the segments that are left hold at
most the bytes that were written between the slashes, and all of them only if nothing was taken for
an escape or a place. So a path gives its parts back if and only if they are literal.
-/

namespace CatalogView.Text

/-- The number of bytes of some texts. -/
def byteCount (texts : List (List Char)) : Nat :=
  (texts.flatMap Utf8.encode).length

@[simp] theorem byte_count_nil : byteCount [] = 0 := rfl

@[simp] theorem byte_count_cons (text : List Char) (texts : List (List Char)) :
    byteCount (text :: texts) = (Utf8.encode text).length + byteCount texts := by
  unfold byteCount
  rw [List.flatMap_cons, List.length_append]

/-- Texts behind a mark each are taken apart again. -/
theorem split_at_flat_map {mark : Char} {first : List Char} {others : List (List Char)}
    (h : ∀ text ∈ first :: others, mark ∉ text) :
    splitAt mark (first ++ others.flatMap (mark :: ·)) = first :: others := by
  induction others generalizing first with
  | nil =>
      rw [List.flatMap_nil, List.append_nil]
      exact split_at_of_not_mem (h first (List.mem_cons_self ..))
  | cons second others ih =>
      obtain ⟨hfirst, hothers⟩ := List.forall_mem_cons.1 h
      rw [List.flatMap_cons, List.cons_append, split_at_append, split_at_of_not_mem hfirst,
        ih hothers]
      rfl

/-- A character put in front of the first of some texts adds its bytes. -/
theorem byte_count_cons_first (c : Char) (texts : List (List Char)) :
    byteCount (consFirst c texts) = (String.utf8EncodeChar c).length + byteCount texts := by
  cases texts with
  | nil => simp [consFirst]
  | cons text texts => simp [consFirst, Nat.add_assoc]

/-- The bytes of a text are those of its parts and of its marks. -/
theorem byte_count_split_at {mark : Char} (hmark : mark.toNat < 128) (text : List Char) :
    byteCount (splitAt mark text) + text.count mark = (Utf8.encode text).length := by
  induction text with
  | nil => rfl
  | cons c text ih =>
      rw [splitAt, Utf8.encode_cons, List.length_append]
      by_cases hc : c = mark
      · subst hc
        rw [if_pos rfl, byte_count_cons, utf8_encode_char_of_ascii hmark, List.count_cons_self]
        simp only [Utf8.encode_nil, List.length_nil, List.length_singleton]
        omega
      · rw [if_neg hc, byte_count_cons_first, List.count_cons_of_ne hc]
        omega

end CatalogView.Text

namespace CatalogView.Url

open CatalogView.Text

/-! ## Places -/

/-- The segment stands for a place: the one that the path has come to, or the one above it. -/
def IsPlace (segment : List Char) : Prop :=
  pointsOf segment = some 1 ∨ pointsOf segment = some 2

instance (segment : List Char) : Decidable (IsPlace segment) :=
  inferInstanceAs (Decidable (_ ∨ _))

/-- What is read from points, or their escapes. -/
theorem decode_of_points {segment : List Char} {n : Nat} (h : pointsOf segment = some n) :
    Percent.decode segment = Utf8.encode (List.replicate n '.') := by
  fun_induction pointsOf segment generalizing n with
  | case1 =>
      cases h
      rfl
  | case2 rest ih =>
      obtain ⟨m, hm, rfl⟩ := Option.map_eq_some_iff.1 h
      rw [Percent.decode_cons_of_ne (by decide), ih hm]
      rfl
  | case3 rest ih | case4 rest ih =>
      obtain ⟨m, hm, rfl⟩ := Option.map_eq_some_iff.1 h
      rw [Percent.decode_percent]
      show 0x2E :: Percent.decode rest = _
      rw [ih hm]
      rfl
  | case5 => cases h

/-- A place is read as one or two points. -/
theorem length_decode_of_place {segment : List Char} (h : IsPlace segment) :
    0 < (Percent.decode segment).length := by
  rcases h with hone | htwo
  · rw [decode_of_points hone]
    decide
  · rw [decode_of_points htwo]
    decide

/-! ## Adding segments -/

/-- The number of bytes that are read from some segments. -/
def readCount (segments : List (List Char)) : Nat :=
  (segments.flatMap Percent.decode).length

@[simp] theorem read_count_nil : readCount [] = 0 := rfl

@[simp] theorem read_count_cons (segment : List Char) (segments : List (List Char)) :
    readCount (segment :: segments) = (Percent.decode segment).length + readCount segments := by
  unfold readCount
  rw [List.flatMap_cons, List.length_append]

@[simp] theorem read_count_append (front back : List (List Char)) :
    readCount (front ++ back) = readCount front + readCount back := by
  unfold readCount
  rw [List.flatMap_append, List.length_append]

/-- No more is read from the path one level up. -/
theorem read_count_parent_le (segments : List (List Char)) :
    readCount (parent segments) ≤ readCount segments := by
  unfold parent
  split
  · exact Nat.le_refl _
  · rcases List.eq_nil_or_concat segments with rfl | ⟨front, last, rfl⟩
    · exact Nat.le_refl _
    · rw [List.concat_eq_append, List.dropLast_concat, read_count_append]
      omega

variable {segment : List Char}

/-- A segment that is no place is added to the path. -/
theorem add_segment_of_not_place (h : ¬ IsPlace segment) (isLast : Bool)
    (segments : List (List Char)) :
    addSegment .web isLast segments segment = segments ++ [segment] := by
  obtain ⟨hone, htwo⟩ := not_or.1 h
  unfold addSegment
  split
  next hpoints => exact absurd hpoints hone
  next hpoints => exact absurd hpoints htwo
  next => rfl

/-- A place adds nothing to the path. -/
theorem read_count_add_segment_of_place (h : IsPlace segment) (isLast : Bool)
    (segments : List (List Char)) :
    readCount (addSegment .web isLast segments segment) ≤ readCount segments := by
  have hparent := read_count_parent_le segments
  have hempty : readCount [[]] = 0 := rfl
  unfold addSegment
  rcases h with hone | htwo
  · rw [hone]
    cases isLast <;> simp [hempty]
  · rw [htwo]
    cases isLast <;> simp [hempty, hparent]

/-- Segments are added one by one. -/
theorem add_segments_cons (kind : SchemeKind) (segments : List (List Char)) (piece : List Char)
    (pieces : List (List Char)) :
    addSegments kind segments (piece :: pieces) =
      addSegments kind (addSegment kind pieces.isEmpty segments piece) pieces := by
  cases pieces <;> rfl

/-- Segments that are no places are added to the path. -/
theorem add_segments_of_not_place {pieces : List (List Char)}
    (h : ∀ piece ∈ pieces, ¬ IsPlace piece) (segments : List (List Char)) :
    addSegments .web segments pieces = segments ++ pieces := by
  induction pieces generalizing segments with
  | nil => exact (List.append_nil segments).symm
  | cons piece pieces ih =>
      obtain ⟨hpiece, hpieces⟩ := List.forall_mem_cons.1 h
      rw [add_segments_cons, add_segment_of_not_place hpiece, ih hpieces, List.append_assoc]
      rfl

/-- Adding a segment adds at most what is read from it, and less if it is a place. -/
theorem read_count_add_segment (isLast : Bool) (segments : List (List Char)) :
    (¬ IsPlace segment ∧ readCount (addSegment .web isLast segments segment) =
      readCount segments + (Percent.decode segment).length) ∨
    readCount (addSegment .web isLast segments segment) <
      readCount segments + (Percent.decode segment).length := by
  by_cases hplace : IsPlace segment
  · have hle := read_count_add_segment_of_place hplace isLast segments
    have hpos := length_decode_of_place hplace
    exact .inr (by omega)
  · left
    rw [add_segment_of_not_place hplace, read_count_append, read_count_cons]
    exact ⟨hplace, rfl⟩

/-- Adding segments adds at most what is read from them, and less if there is a place among them. -/
theorem read_count_add_segments (pieces segments : List (List Char)) :
    ((∀ piece ∈ pieces, ¬ IsPlace piece) ∧
      readCount (addSegments .web segments pieces) = readCount segments + readCount pieces) ∨
    readCount (addSegments .web segments pieces) < readCount segments + readCount pieces := by
  induction pieces generalizing segments with
  | nil => exact .inl ⟨fun _ hmem => absurd hmem List.not_mem_nil, rfl⟩
  | cons piece pieces ih =>
      rw [add_segments_cons, read_count_cons]
      have hrest := ih (addSegment .web pieces.isEmpty segments piece)
      rcases read_count_add_segment pieces.isEmpty segments with ⟨hplace, heq⟩ | hlt
      · rcases hrest with ⟨hplaces, hrest⟩ | hrest
        · exact .inl ⟨List.forall_mem_cons.2 ⟨hplace, hplaces⟩, by omega⟩
        · exact .inr (by omega)
      · rcases hrest with ⟨-, hrest⟩ | hrest <;> exact .inr (by omega)

/-! ## Reading a path -/

/-- A text that a path gives back when it stands in it as it is. -/
structure IsLiteral (part : List Char) : Prop where
  /-- It holds nothing that ends it or is left out. -/
  marks : ∀ c ∈ part, c ∉ ['/', '\\', '?', '#', '\t', '\n', '\r']
  /-- It holds no escapes. -/
  escapes : Percent.decode part = Utf8.encode part
  /-- It is no place. -/
  place : part ≠ ['.'] ∧ part ≠ ['.', '.']

instance (part : List Char) : Decidable (IsLiteral part) :=
  -- the characters of the part are gone through, and not all that there are
  haveI := List.decidableBAll (· ∉ ['/', '\\', '?', '#', '\t', '\n', '\r']) part
  decidable_of_iff ((∀ c ∈ part, c ∉ ['/', '\\', '?', '#', '\t', '\n', '\r']) ∧
      Percent.decode part = Utf8.encode part ∧ part ≠ ['.'] ∧ part ≠ ['.', '.'])
    ⟨fun ⟨marks, escapes, place⟩ => ⟨marks, escapes, place⟩,
      fun h => ⟨h.marks, h.escapes, h.place⟩⟩

/-- The text with one sign for all slashes. -/
def slashed (text : List Char) : List Char :=
  text.map fun c => if isSlash .web c then '/' else c

/-- The segments of a path are what stands between its slashes, escaped. -/
theorem read_segments_eq (text : List Char) :
    readSegments .web [] text =
      addSegments .web [] ((splitAt '/' (slashed text)).map (Percent.encode Percent.path)) := rfl

/-- A segment is read as the text that it was written for. -/
theorem decode_encode_path (text : List Char) :
    Percent.decode (Percent.encode Percent.path text) = Percent.decode text :=
  Percent.decode_encode_of_keeps Percent.path_keeps_escapes text

/-- What is written for a literal part is no place. -/
theorem IsLiteral.not_place {part : List Char} (h : IsLiteral part) :
    ¬ IsPlace (Percent.encode Percent.path part) := by
  have hpoints : ∀ n, pointsOf (Percent.encode Percent.path part) = some n →
      part = List.replicate n '.' := by
    intro n hn
    have hdecode := decode_of_points hn
    rw [decode_encode_path, h.escapes] at hdecode
    exact utf8_encode_injective hdecode
  rintro (hone | htwo)
  · exact h.place.1 (hpoints 1 hone)
  · exact h.place.2 (hpoints 2 htwo)

/-- Literal parts are read back from their segments. -/
theorem map_decode_of_literal {parts : List (List Char)} (h : ∀ part ∈ parts, IsLiteral part) :
    (parts.map (Percent.encode Percent.path)).map Percent.decode = parts.map Utf8.encode := by
  rw [List.map_map]
  refine List.map_congr_left fun part hpart => ?_
  exact (decode_encode_path part).trans (h part hpart).escapes

/-- A text without backslashes has one sign for all slashes. -/
theorem slashed_of_not_mem {text : List Char} (h : '\\' ∉ text) : slashed text = text := by
  unfold slashed
  conv_rhs => rw [← List.map_id text]
  refine List.map_congr_left fun c hc => ?_
  have hc : c ≠ '\\' := fun heq => h (heq ▸ hc)
  by_cases hslash : c = '/' <;> simp [isSlash, SchemeKind.isSpecial, hslash, hc]

/-- A slash has as many bytes as a backslash. -/
theorem length_encode_slashed (text : List Char) :
    (Utf8.encode (slashed text)).length = (Utf8.encode text).length := by
  induction text with
  | nil => rfl
  | cons c text ih =>
      show (Utf8.encode ((if isSlash .web c then '/' else c) :: slashed text)).length = _
      rw [Utf8.encode_cons, Utf8.encode_cons, List.length_append, List.length_append, ih]
      by_cases hslash : isSlash .web c
      · have hc : c = '/' ∨ c = '\\' := by simpa [isSlash, SchemeKind.isSpecial] using hslash
        rcases hc with rfl | rfl <;> rfl
      · rw [if_neg hslash]

/-- Both slashes and backslashes are slashes. -/
theorem count_slashed (text : List Char) :
    (slashed text).count '/' = text.count '/' + text.count '\\' := by
  induction text with
  | nil => rfl
  | cons c text ih =>
      show ((if isSlash .web c then '/' else c) :: slashed text).count '/' = _
      rw [List.count_cons, List.count_cons, List.count_cons, ih]
      by_cases hslash : c = '/'
      · subst hslash
        simp [isSlash]
        omega
      · by_cases hback : c = '\\'
        · subst hback
          simp [isSlash, SchemeKind.isSpecial]
          omega
        · simp [isSlash, hslash, hback]

/-- Literal parts behind slashes are the segments of the path. -/
theorem read_segments_of_literal {first : List Char} {others : List (List Char)}
    (h : ∀ part ∈ first :: others, IsLiteral part) :
    readSegments .web [] (first ++ others.flatMap ('/' :: ·)) =
      (first :: others).map (Percent.encode Percent.path) := by
  have hback : '\\' ∉ first ++ others.flatMap ('/' :: ·) := by
    intro hmem
    rcases List.mem_append.1 hmem with hfirst | hothers
    · exact (h first (List.mem_cons_self ..)).marks _ hfirst (by decide)
    · obtain ⟨part, hpart, hmem⟩ := List.mem_flatMap.1 hothers
      have hpart' : '\\' ∈ part := List.mem_of_ne_of_mem (by decide) hmem
      exact (h part (List.mem_cons_of_mem _ hpart)).marks _ hpart' (by decide)
  have hsplit : splitAt '/' (first ++ others.flatMap ('/' :: ·)) = first :: others :=
    split_at_flat_map fun part hpart hslash => (h part hpart).marks _ hslash (by decide)
  have hplaces : ∀ piece ∈ (first :: others).map (Percent.encode Percent.path),
      ¬ IsPlace piece := by
    intro piece hpiece
    obtain ⟨part, hpart, rfl⟩ := List.mem_map.1 hpiece
    exact (h part hpart).not_place
  rw [read_segments_eq, slashed_of_not_mem hback, hsplit, add_segments_of_not_place hplaces,
    List.nil_append]

/-- What is read from segments are at most the bytes of the texts that they were written for, and
less if there is an escape among them. -/
theorem read_count_encode (pieces : List (List Char)) :
    ((∀ piece ∈ pieces, Percent.decode piece = Utf8.encode piece) ∧
      readCount (pieces.map (Percent.encode Percent.path)) = byteCount pieces) ∨
    readCount (pieces.map (Percent.encode Percent.path)) < byteCount pieces := by
  induction pieces with
  | nil => exact .inl ⟨fun _ hmem => absurd hmem List.not_mem_nil, rfl⟩
  | cons piece pieces ih =>
      rw [List.map_cons, read_count_cons, decode_encode_path, byte_count_cons]
      rcases Percent.decode_eq_or_shorter piece with heq | hlt
      · rcases ih with ⟨hall, hrest⟩ | hrest
        · exact .inl ⟨List.forall_mem_cons.2 ⟨heq, hall⟩, by rw [heq, hrest]⟩
        · exact .inr (by rw [heq]; omega)
      · rcases ih with ⟨-, hrest⟩ | hrest <;> exact .inr (by omega)

/-- What is read from the segments of a path are at most the bytes between its slashes, and less if
there is an escape or a place among them. -/
theorem read_count_read_segments (text : List Char) :
    ((∀ piece ∈ splitAt '/' (slashed text), Percent.decode piece = Utf8.encode piece ∧
        ¬ IsPlace (Percent.encode Percent.path piece)) ∧
      readCount (readSegments .web [] text) + text.count '/' + text.count '\\' =
        (Utf8.encode text).length) ∨
    readCount (readSegments .web [] text) + text.count '/' + text.count '\\' <
      (Utf8.encode text).length := by
  have hbytes := byte_count_split_at (by decide : '/'.toNat < 128) (slashed text)
  rw [count_slashed, length_encode_slashed] at hbytes
  rw [read_segments_eq]
  generalize splitAt '/' (slashed text) = pieces at hbytes ⊢
  have hadd := read_count_add_segments (pieces.map (Percent.encode Percent.path)) []
  rw [read_count_nil, Nat.zero_add] at hadd
  rcases read_count_encode pieces with ⟨hread, heq⟩ | hlt
  · rcases hadd with ⟨hplaces, hadd⟩ | hadd
    · left
      refine ⟨fun piece hpiece => ⟨hread piece hpiece, ?_⟩, by omega⟩
      exact hplaces _ (List.mem_map_of_mem hpiece)
    · exact .inr (by omega)
  · rcases hadd with ⟨-, hadd⟩ | hadd <;> exact .inr (by omega)

end CatalogView.Url
