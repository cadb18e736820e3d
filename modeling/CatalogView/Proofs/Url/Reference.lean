import CatalogView.Proofs.Result
import CatalogView.Proofs.Url.Path
import Mathlib.Data.List.DropRight

/-!
# References that are paths

A text that begins with one slash is a path from the root, whatever follows: no scheme and no host
is found in it, so it stays at the site of the address that it is joined to (`join_path`). Whether
it leads to the place that it spells is another matter. `join_leads_to_iff` says that it does if and
only if all its parts are literal and nothing is cut off at its end.
-/

namespace CatalogView.Url

open CatalogView.Text

/-! ## Cleaning -/

/-- A control or a space, as it is left out at the ends of a text. -/
def isEdge (c : Char) : Bool := c ≤ ' '

/-- A character that is not left out within a text. -/
def isInner (c : Char) : Bool := c ≠ '\t' && c ≠ '\n' && c ≠ '\r'

/-- What is left of a text of which the beginning is kept. -/
def cleanEnd (text : List Char) : List Char :=
  (text.rdropWhile isEdge).filter isInner

/-- A text is trimmed after its first character if that is kept. -/
theorem rdrop_while_cons {c : Char} (h : isEdge c = false) (text : List Char) :
    (c :: text).rdropWhile isEdge = c :: text.rdropWhile isEdge := by
  induction text using List.reverseRecOn with
  | nil => simp [List.rdropWhile_singleton, h]
  | append_singleton text d ih =>
      rw [← List.cons_append, List.rdropWhile_concat, List.rdropWhile_concat, ih]
      split <;> rfl

/-- What is no edge is kept within a text. -/
theorem inner_of_not_edge {c : Char} (h : isEdge c = false) : isInner c = true := by
  have hne : ∀ d, isEdge d = true → c ≠ d := by
    rintro d hd rfl
    rw [h] at hd
    cases hd
  simp [isInner, hne '\t' (by decide), hne '\n' (by decide), hne '\r' (by decide)]

/-- Cleaning a text keeps a beginning that is no edge. -/
theorem clean_cons {c : Char} (h : isEdge c = false) (text : List Char) :
    clean (c :: text) = c :: cleanEnd text := by
  show (((c :: text).dropWhile isEdge).rdropWhile isEdge).filter isInner = _
  rw [List.dropWhile_cons_of_neg (by simp [h]), rdrop_while_cons h,
    List.filter_cons_of_pos (inner_of_not_edge h)]
  rfl

/-- So does cleaning its end. -/
theorem clean_end_cons {c : Char} (h : isEdge c = false) (text : List Char) :
    cleanEnd (c :: text) = c :: cleanEnd text := by
  unfold cleanEnd
  rw [rdrop_while_cons h, List.filter_cons_of_pos (inner_of_not_edge h)]

/-- Cleaning leaves characters out, and nothing else. -/
theorem clean_end_sublist (text : List Char) : (cleanEnd text).Sublist text :=
  List.filter_sublist.trans (List.rdropWhile_prefix isEdge text).sublist

/-- Cleaning leaves no character out that is no edge. -/
theorem count_clean_end {mark : Char} (h : isEdge mark = false) (text : List Char) :
    (cleanEnd text).count mark = text.count mark := by
  have hdropped : (text.rtakeWhile isEdge).count mark = 0 := by
    refine List.count_eq_zero.2 fun hmem => ?_
    rw [List.mem_rtakeWhile_imp hmem] at h
    cases h
  unfold cleanEnd
  rw [List.count_filter (inner_of_not_edge h)]
  have hparts : text.rdropWhile isEdge ++ text.rtakeWhile isEdge = text :=
    List.rdropWhile_append_rtakeWhile
  conv_rhs => rw [← hparts, List.count_append, hdropped]
  rfl

/-- A text is clean if its last character is kept and there are no tabs and ends of lines in it. -/
theorem clean_end_eq_self_iff (text : List Char) :
    cleanEnd text = text ↔
      (∀ c ∈ text, isInner c = true) ∧ ∀ c ∈ text.getLast?, isEdge c = false := by
  constructor
  · intro h
    have htrimmed : text.rdropWhile isEdge = text := by
      have hsublist : text.Sublist (text.rdropWhile isEdge) := by
        conv_lhs => rw [← h]
        exact List.filter_sublist
      exact hsublist.antisymm (List.rdropWhile_prefix isEdge text).sublist |>.symm
    constructor
    · intro c hc
      rw [← h] at hc
      exact (List.mem_filter.1 hc).2
    · intro c hc
      obtain ⟨hne, rfl⟩ := List.mem_getLast?_eq_getLast hc
      simpa using List.rdropWhile_eq_self_iff.1 htrimmed hne
  · rintro ⟨hinner, hlast⟩
    unfold cleanEnd
    have htrimmed : text.rdropWhile isEdge = text := by
      refine List.rdropWhile_eq_self_iff.2 fun hne => ?_
      simpa using hlast _ (List.getLast?_eq_some_getLast hne)
    rw [htrimmed]
    exact List.filter_eq_self.2 hinner

/-! ## Query and fragment -/

/-- A text without a mark is its own first part. -/
theorem split_first_of_not_mem {mark : Char} {text : List Char} (h : mark ∉ text) :
    splitFirst mark text = (text, none) := by
  have hall : ∀ c ∈ text, decide (c ≠ mark) = true := fun c hc =>
    decide_eq_true fun heq => h (heq ▸ hc)
  show (text.takeWhile _, if mark ∈ text then _ else none) = _
  rw [List.takeWhile_eq_self_iff.2 hall, if_neg h]

/-- A text without the marks of a query and a fragment has neither. -/
theorem tail_of_not_mem (kind : SchemeKind) {text : List Char} (hfragment : '#' ∉ text)
    (hquery : '?' ∉ text) : Tail.of kind text = ⟨text, none, none⟩ := by
  unfold Tail.of
  rw [split_first_of_not_mem hfragment]
  dsimp only
  rw [split_first_of_not_mem hquery]
  rfl

/-- A text with neither a query nor a fragment has no marks of them. -/
theorem not_mem_of_tail {kind : SchemeKind} {text : List Char}
    (hfragment : (Tail.of kind text).fragment? = none)
    (hquery : (Tail.of kind text).query? = none) : '#' ∉ text ∧ '?' ∉ text := by
  have hnone : '#' ∉ text := by
    intro hmem
    simp [Tail.of, splitFirst, hmem] at hfragment
  refine ⟨hnone, fun hmem => ?_⟩
  unfold Tail.of at hquery
  rw [split_first_of_not_mem hnone] at hquery
  simp [splitFirst, hmem] at hquery

/-! ## Addresses with a path from the root -/

/-- What is read after two slashes has the scheme and a path from the root. -/
theorem parse_authority_rooted {scheme text : List Char} {url : Url}
    (h : parseAuthority scheme text = .ok url) :
    url.scheme = scheme ∧ ∃ segments, url.path = .rooted segments := by
  unfold parseAuthority at h
  extract_lets kind tail authority after at h
  split at h
  split at h
  split at h
  · cases h
  · split at h
    obtain ⟨host, -, h⟩ := exists_of_bind_eq_ok h
    obtain ⟨⟨port?, afterPort⟩, -, h⟩ := exists_of_bind_eq_ok h
    cases h
    exact ⟨rfl, _, rfl⟩

/-- The address of a file has the scheme of files. -/
theorem scheme_of_parse_file {text : List Char} {url : Url} (h : parseFile text = .ok url) :
    url.scheme = "file".toList := by
  unfold parseFile at h
  extract_lets scheme tail slashes atHost hostText isLocal pathText segments place at h
  split at h
  · cases h
    rfl
  · obtain ⟨host, -, h⟩ := exists_of_bind_eq_ok h
    cases h
    rfl

/-- Every address under a scheme of the web has a path from the root. -/
theorem parse_rooted {text : List Char} {url : Url} (h : parse text = .ok url)
    (hkind : url.kind = .web) : ∃ segments, url.path = .rooted segments := by
  unfold parse at h
  split at h
  next => cases h
  next scheme rest _ =>
    unfold parseAfter at h
    split at h
    next =>
      rw [kind, scheme_of_parse_file h] at hkind
      exact absurd hkind (by decide)
    next => exact (parse_authority_rooted h).2
    next hother =>
      unfold parseOther at h
      split at h
      · exact (parse_authority_rooted h).2
      · cases h
        rw [show Url.kind _ = kindOf scheme from rfl, hother] at hkind
        cases hkind

/-! ## Paths from the root -/

/-- No scheme begins with a slash. -/
theorem split_scheme_slash (text : List Char) : splitScheme? ('/' :: text) = none := rfl

/-- What begins with one slash is a path from the root, and neither another address nor another
host. -/
theorem reference_of_slash (base : Url) {c : Char} (h : isSlash base.kind c = false)
    (text : List Char) : Reference.of base ('/' :: c :: text) = .rooted (c :: text) := by
  have hslash : isSlash base.kind '/' = true := by simp [isSlash]
  unfold Reference.of
  rw [split_scheme_slash]
  simp [Reference.ofRest, hslash, h]

/-- A text with a first character that is neither a slash nor left out. -/
def BeginsSegment (text : List Char) : Prop :=
  ∃ c rest, text = c :: rest ∧ isSlash .web c = false ∧ isEdge c = false

variable {base page : Url} {segments : List (List Char)} {c : Char}

/-- Under a scheme of the web a path from the root takes the place of the path, the query and the
fragment, and of nothing else. -/
theorem join_path (hkind : base.kind = .web) (hpath : base.path = .rooted segments)
    {text : List Char} (htext : BeginsSegment text) :
    base.join ('/' :: text) =
      .ok (base.withPath (readSegments .web [] (Tail.of .web (cleanEnd text)).front)
        (Tail.of .web (cleanEnd text))) := by
  obtain ⟨c, rest, rfl, hslash, hedge⟩ := htext
  have hreference : Reference.of base (clean ('/' :: c :: rest)) =
      .rooted (cleanEnd (c :: rest)) := by
    rw [clean_cons (by decide), clean_end_cons hedge]
    exact reference_of_slash base (hkind ▸ hslash) (cleanEnd rest)
  have hbase : base.canBeBase = true := by rw [canBeBase, hpath]
  unfold join
  rw [hreference, hbase]
  simp [resolve, hkind, namesDrive, driveOf]

/-- The segments that the path is given are its segments. -/
theorem path_with_path (hkind : base.kind = .web) (segments : List (List Char)) (tail : Tail) :
    (base.withPath segments tail).path = .rooted segments := by
  unfold withPath pathOf
  rw [hkind, if_neg (by decide)]

/-- The address has the parts for its path, escaped or not, and neither a query nor a fragment. -/
structure LeadsTo (page : Url) (parts : List (List Char)) : Prop where
  path : ∃ segments, page.path = .rooted segments ∧
    segments.map Percent.decode = parts.map Utf8.encode
  query : page.query? = none
  fragment : page.fragment? = none

/-- What a path spells behind its first slash. -/
def spelling (first : List Char) (others : List (List Char)) : List Char :=
  first ++ others.flatMap ('/' :: ·)

/-- The parts of a path that leads to the place that it spells. -/
structure IsPlain (first : List Char) (others : List (List Char)) : Prop where
  literal : ∀ part ∈ first :: others, IsLiteral part
  /-- Nothing is cut off at the end. -/
  ending : ∀ c ∈ (spelling first others).getLast?, isEdge c = false

variable {first : List Char} {others : List (List Char)}

/-- A character that a path spells is a slash or stands in one of the parts. -/
theorem exists_part_of_mem_spelling (h : c ∈ spelling first others) (hslash : c ≠ '/') :
    ∃ part ∈ first :: others, c ∈ part := by
  rcases List.mem_append.1 h with hfirst | hothers
  · exact ⟨first, List.mem_cons_self .., hfirst⟩
  · obtain ⟨part, hpart, hc⟩ := List.mem_flatMap.1 hothers
    exact ⟨part, List.mem_cons_of_mem _ hpart, List.mem_of_ne_of_mem hslash hc⟩

/-- A character that stands in one of the parts is spelled. -/
theorem mem_spelling_of_part {part : List Char} (hpart : part ∈ first :: others) (h : c ∈ part) :
    c ∈ spelling first others := by
  rcases List.mem_cons.1 hpart with rfl | hothers
  · exact List.mem_append_left _ h
  · exact List.mem_append_right _ (List.mem_flatMap.2 ⟨part, hothers, List.mem_cons_of_mem _ h⟩)

/-- A path with plain parts spells no marks but its slashes. -/
theorem IsPlain.not_mark (h : IsPlain first others) (hc : c ∈ spelling first others)
    (hslash : c ≠ '/') : c ∉ ['/', '\\', '?', '#', '\t', '\n', '\r'] := by
  obtain ⟨part, hpart, hmem⟩ := exists_part_of_mem_spelling hc hslash
  exact (h.literal part hpart).marks c hmem

/-- A path with plain parts is clean. -/
theorem IsPlain.clean_end (h : IsPlain first others) :
    cleanEnd (spelling first others) = spelling first others := by
  refine (clean_end_eq_self_iff _).2 ⟨fun c hc => ?_, h.ending⟩
  by_cases hslash : c = '/'
  · subst hslash
    rfl
  · have hmark := h.not_mark hc hslash
    simp only [List.mem_cons, not_or] at hmark
    simp [isInner, hmark]

/-- A path with plain parts has neither a query nor a fragment. -/
theorem IsPlain.tail (h : IsPlain first others) (kind : SchemeKind) :
    Tail.of kind (spelling first others) = ⟨spelling first others, none, none⟩ :=
  tail_of_not_mem kind (fun hc => h.not_mark hc (by decide) (by decide))
    fun hc => h.not_mark hc (by decide) (by decide)

/-- The bytes that a path spells are those of its parts and of the slashes between them. -/
theorem length_encode_spelling (h : ∀ part ∈ first :: others, '/' ∉ part) :
    byteCount (first :: others) + (spelling first others).count '/' =
      (Utf8.encode (spelling first others)).length := by
  have hbytes := byte_count_split_at (by decide : '/'.toNat < 128) (spelling first others)
  unfold spelling at hbytes ⊢
  rwa [split_at_flat_map h] at hbytes

/-- What is read from segments that give some parts back. -/
theorem read_count_of_parts {parts : List (List Char)}
    (h : segments.map Percent.decode = parts.map Utf8.encode) :
    readCount segments = byteCount parts := by
  unfold readCount byteCount
  rw [List.flatMap_def, h, List.flatMap_def]

/-- If no byte of a text is lost when it is read as a path, then the text was clean, and there are
no backslashes, escapes and places in it: each of them costs bytes, and no byte comes from
elsewhere. -/
theorem kept_of_read_count {text : List Char}
    (h : readCount (readSegments .web [] (cleanEnd text)) + text.count '/' =
      (Utf8.encode text).length) :
    cleanEnd text = text ∧ '\\' ∉ text ∧
      ∀ piece ∈ splitAt '/' text, Percent.decode piece = Utf8.encode piece ∧
        ¬ IsPlace (Percent.encode Percent.path piece) := by
  have hsublist := utf8_encode_sublist (clean_end_sublist text)
  have hle := hsublist.length_le
  have hslashes := count_clean_end (by decide : isEdge '/' = false) text
  rcases read_count_read_segments (cleanEnd text) with ⟨hpieces, hsegments⟩ | hsegments
  case inr => omega
  have hclean : cleanEnd text = text :=
    utf8_encode_injective (hsublist.eq_of_length (by omega))
  rw [hclean] at hpieces hsegments h
  have hback : '\\' ∉ text := by
    rw [← List.count_eq_zero]
    omega
  rw [slashed_of_not_mem hback] at hpieces
  exact ⟨hclean, hback, hpieces⟩

/-- What is read of a path that leads to the place that it spells are all the bytes of its parts. -/
theorem read_count_of_leads_to (hkind : base.kind = .web) {text : List Char}
    (hjoined : page = base.withPath (readSegments .web [] (Tail.of .web text).front)
      (Tail.of .web text))
    (hleads : page.LeadsTo (first :: others)) :
    '#' ∉ text ∧ '?' ∉ text ∧
      readCount (readSegments .web [] text) = byteCount (first :: others) := by
  subst hjoined
  obtain ⟨⟨found, hfound, hread⟩, hquery, hfragment⟩ := hleads
  obtain ⟨hhash, hmark⟩ := not_mem_of_tail hfragment hquery
  rw [path_with_path hkind, tail_of_not_mem .web hhash hmark] at hfound
  cases hfound
  exact ⟨hhash, hmark, read_count_of_parts hread⟩

/-- A path from the root with plain parts has these parts for its segments. -/
theorem join_of_plain (hkind : base.kind = .web) (hpath : base.path = .rooted segments)
    (hbegins : BeginsSegment (spelling first others)) (hplain : IsPlain first others) :
    base.join ('/' :: spelling first others) =
      .ok (base.withPath ((first :: others).map (Percent.encode Percent.path))
        ⟨spelling first others, none, none⟩) := by
  rw [join_path hkind hpath hbegins, hplain.clean_end, hplain.tail]
  dsimp only
  unfold spelling
  rw [read_segments_of_literal hplain.literal]

/-- A path from the root that leads to the place that it spells has plain parts. -/
theorem plain_of_leads_to (hkind : base.kind = .web) (hpath : base.path = .rooted segments)
    (hbegins : BeginsSegment (spelling first others))
    (hparts : ∀ part ∈ first :: others, '/' ∉ part)
    (hjoin : base.join ('/' :: spelling first others) = .ok page)
    (hleads : page.LeadsTo (first :: others)) : IsPlain first others := by
  rw [join_path hkind hpath hbegins] at hjoin
  obtain ⟨hhash, hmark, hcount⟩ :=
    read_count_of_leads_to hkind (Except.ok.inj hjoin).symm hleads
  have hspelled := length_encode_spelling hparts
  have hkept : readCount (readSegments .web [] (cleanEnd (spelling first others))) +
      (spelling first others).count '/' = (Utf8.encode (spelling first others)).length := by
    omega
  obtain ⟨hclean, hback, hpieces⟩ := kept_of_read_count hkept
  rw [hclean] at hhash hmark
  obtain ⟨hinner, hending⟩ := (clean_end_eq_self_iff _).1 hclean
  rw [spelling, split_at_flat_map hparts] at hpieces
  refine ⟨fun part hpart => ⟨fun c hc hlost => ?_, (hpieces part hpart).1, ?_, ?_⟩, hending⟩
  · have hmem := mem_spelling_of_part hpart hc
    simp only [List.mem_cons, List.not_mem_nil, or_false] at hlost
    rcases hlost with rfl | rfl | rfl | rfl | rfl | rfl | rfl
    · exact hparts part hpart hc
    · exact hback hmem
    · exact hmark hmem
    · exact hhash hmem
    · exact absurd (hinner _ hmem) (by decide)
    · exact absurd (hinner _ hmem) (by decide)
    · exact absurd (hinner _ hmem) (by decide)
  · rintro rfl
    exact (hpieces _ hpart).2 (by decide)
  · rintro rfl
    exact (hpieces _ hpart).2 (by decide)

/-- A path from the root leads to the place that it spells if and only if its parts are plain. -/
theorem join_leads_to_iff (hkind : base.kind = .web) (hpath : base.path = .rooted segments)
    (hbegins : BeginsSegment (spelling first others))
    (hparts : ∀ part ∈ first :: others, '/' ∉ part)
    (hjoin : base.join ('/' :: spelling first others) = .ok page) :
    page.LeadsTo (first :: others) ↔ IsPlain first others := by
  refine ⟨plain_of_leads_to hkind hpath hbegins hparts hjoin, fun hplain => ?_⟩
  rw [join_of_plain hkind hpath hbegins hplain] at hjoin
  cases hjoin
  exact ⟨⟨_, path_with_path hkind _ _, map_decode_of_literal hplain.literal⟩, rfl, rfl⟩

end CatalogView.Url
