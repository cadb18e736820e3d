import CatalogView.Proofs.Table.Key
import CatalogView.Proofs.Url.Reference
import CatalogView.Proofs.Url.Site
import CatalogView.Table.Page

/-!
# Where the page of a table is found

The path of a table's page is written without escapes, from parts that may hold almost anything.
It begins with one slash all the same, so it never leads away from the site of the host
(`page_stays_at_site`). But it leads to the table's own page only if the parts can stand in a path
as they are, and `page_found_iff_plain` says that this is exactly when it does.
-/

namespace CatalogView.Table

open CatalogView.Text CatalogView.Url

/-- The segment under which the pages of all tables are found. -/
def pagesSegment : String := "table_detail"

/-- The parts of a key in the order in which the path of its page holds them. -/
def Key.pathParts (key : Key) : List (List Char) :=
  [key.cluster.toList, key.database.toList, key.schema.toList, key.name.toList]

/-- The address leads to the page of the key's table: under the segment for tables it has one more
for each part, which is read as that part, and there is nothing behind them. -/
structure IsPageOf (page : Url) (key : Key) : Prop where
  path : ∃ segments, page.path = .rooted (pagesSegment.toList :: segments) ∧
    segments.map Percent.decode = key.pathParts.map Utf8.encode
  query : page.query? = none
  fragment : page.fragment? = none

/-- A key with parts that can stand in a path as they are. -/
structure Key.HasPlainPath (key : Key) : Prop where
  literal : ∀ part ∈ key.pathParts, IsLiteral part
  /-- The name does not end with a control or a space. -/
  ending : ∀ c ∈ key.name.toList.getLast?, isEdge c = false

instance (key : Key) : Decidable key.HasPlainPath :=
  haveI : Decidable (∀ c ∈ key.name.toList.getLast?, isEdge c = false) :=
    Option.decidableForallMem _
  decidable_of_iff ((∀ part ∈ key.pathParts, IsLiteral part) ∧
      ∀ c ∈ key.name.toList.getLast?, isEdge c = false)
    ⟨fun ⟨literal, ending⟩ => ⟨literal, ending⟩, fun h => ⟨h.literal, h.ending⟩⟩

variable {given host : String} {key other : Key} {base page : Url}

/-! ## The path of a page -/

/-- The segment for tables can stand in a path. -/
theorem pages_segment_literal : IsLiteral pagesSegment.toList := by decide +kernel

/-- The path of a page is spelled out behind its first slash. -/
theorem path_eq_spelling (key : Key) :
    key.path.toList = '/' :: spelling pagesSegment.toList key.pathParts := by
  have hfirst : "/table_detail/" = "/" ++ pagesSegment ++ "/" := by decide +kernel
  have hslash : "/".toList = ['/'] := by decide
  show ("/table_detail/" ++ key.cluster ++ "/" ++ key.database ++ "/" ++ key.schema ++ "/" ++
    key.name).toList = _
  rw [hfirst]
  simp [hslash, spelling, Key.pathParts]

/-- It begins with a segment, and so with no second slash. -/
theorem path_begins (parts : List (List Char)) :
    BeginsSegment (spelling pagesSegment.toList parts) := by
  have hfirst : pagesSegment.toList = 't' :: "able_detail".toList := by decide
  unfold spelling
  rw [hfirst, List.cons_append]
  exact ⟨'t', _, rfl, by decide, by decide⟩

/-- The parts of a key that was read hold no slashes. -/
theorem no_slash_of_well_formed (h : key.IsWellFormed) :
    ∀ part ∈ pagesSegment.toList :: key.pathParts, '/' ∉ part := by
  simp only [Key.pathParts, List.forall_mem_cons]
  refine ⟨by decide, ?_, ?_, ?_, ?_, fun _ hmem => absurd hmem List.not_mem_nil⟩
  · exact fun hmem => h.cluster.2 _ hmem (by decide)
  · exact fun hmem => h.database.2 _ hmem (by decide)
  · exact fun hmem => h.schema.2 _ hmem (by decide)
  · exact fun hmem => h.name.2 _ hmem (by decide)

/-- The path of a page ends as the table's name does. -/
theorem getLast_spelling (h : key.name.toList ≠ []) :
    (spelling pagesSegment.toList key.pathParts).getLast? = key.name.toList.getLast? := by
  have hspelling : spelling pagesSegment.toList key.pathParts =
      (pagesSegment.toList ++ '/' :: key.cluster.toList ++ '/' :: key.database.toList ++
        '/' :: key.schema.toList ++ ['/']) ++ key.name.toList := by
    simp [spelling, Key.pathParts]
  rw [hspelling, List.getLast?_append_of_ne_nil _ h]

/-- The path of a page is plain if and only if the parts of the key are. -/
theorem plain_iff_has_plain_path (h : key.IsWellFormed) :
    IsPlain pagesSegment.toList key.pathParts ↔ key.HasPlainPath := by
  have hlast := getLast_spelling h.name.1
  constructor
  · intro hplain
    exact ⟨fun part hpart => hplain.literal part (List.mem_cons_of_mem _ hpart),
      fun c hc => hplain.ending c (hlast ▸ hc)⟩
  · intro hpath
    exact ⟨List.forall_mem_cons.2 ⟨pages_segment_literal, hpath.literal⟩,
      fun c hc => hpath.ending c (hlast ▸ hc)⟩

/-! ## The address of a page -/

/-- The segments and the rest of the address of a page, which do not depend on the host. -/
def Key.tail (key : Key) : Tail :=
  Tail.of .web (cleanEnd (spelling pagesSegment.toList key.pathParts))

/-- The page of a key is what its path completes the host to. -/
theorem page_url_eq_join (hkey : Key.parse given = .ok key)
    (hbase : Url.parse host.toList = .ok base) :
    pageUrl given host =
      (base.join ('/' :: spelling pagesSegment.toList key.pathParts)).mapError .host := by
  unfold pageUrl Key.pageAt
  rw [hkey]
  show Except.mapError PageError.host
    (Url.parse host.toList >>= fun url => url.join key.path.toList) = _
  rw [hbase, path_eq_spelling]
  rfl

/-- It is found at every host of the web. -/
theorem page_url_eq (hkey : Key.parse given = .ok key) (hbase : Url.parse host.toList = .ok base)
    (hhttp : base.IsHttp) :
    pageUrl given host =
      .ok (base.withPath (readSegments .web [] key.tail.front) key.tail) := by
  obtain ⟨segments, hpath⟩ := parse_rooted hbase hhttp.kind
  rw [page_url_eq_join hkey hbase, join_path hhttp.kind hpath (path_begins key.pathParts)]
  rfl

/-- The page of a key with a plain path has its parts, escaped, for segments. -/
theorem page_url_of_plain (hkey : Key.parse given = .ok key)
    (hbase : Url.parse host.toList = .ok base) (hhttp : base.IsHttp) (hplain : key.HasPlainPath) :
    pageUrl given host =
      .ok (base.withPath ((pagesSegment.toList :: key.pathParts).map (Percent.encode Percent.path))
        ⟨spelling pagesSegment.toList key.pathParts, none, none⟩) := by
  have hplain := (plain_iff_has_plain_path (Key.parse_eq_ok_iff.1 hkey).2).2 hplain
  obtain ⟨segments, hpath⟩ := parse_rooted hbase hhttp.kind
  rw [page_url_eq_join hkey hbase,
    join_of_plain hhttp.kind hpath (path_begins key.pathParts) hplain]
  rfl

/-- The page of a key is a place that its path spells. -/
theorem IsPageOf.leads_to (h : IsPageOf page key) :
    page.LeadsTo (pagesSegment.toList :: key.pathParts) := by
  obtain ⟨segments, hpath, hparts⟩ := h.path
  refine ⟨⟨_, hpath, ?_⟩, h.query, h.fragment⟩
  rw [List.map_cons, List.map_cons, hparts, pages_segment_literal.escapes]

/-- An address is the page of one key at most. -/
theorem IsPageOf.unique (hkey : IsPageOf page key) (hother : IsPageOf page other) :
    other = key := by
  obtain ⟨segments, hpath, hparts⟩ := hkey.path
  obtain ⟨otherSegments, hpath', hparts'⟩ := hother.path
  rw [hpath] at hpath'
  cases hpath'
  rw [hparts] at hparts'
  have hsame : ∀ part otherPart : String,
      Utf8.encode part.toList = Utf8.encode otherPart.toList → otherPart = part :=
    fun part otherPart h => String.toList_inj.1 (utf8_encode_injective h).symm
  obtain ⟨database, cluster, schema, name⟩ := key
  obtain ⟨database', cluster', schema', name'⟩ := other
  simp only [Key.pathParts, List.map_cons, List.map_nil, List.cons.injEq, and_true] at hparts'
  obtain ⟨hcluster, hdatabase, hschema, hname⟩ := hparts'
  rw [hsame _ _ hcluster, hsame _ _ hdatabase, hsame _ _ hschema, hsame _ _ hname]

/-- What a key with a plain path leads to is its page. -/
theorem page_of_plain (hkey : Key.parse given = .ok key)
    (hbase : Url.parse host.toList = .ok base) (hhttp : base.IsHttp) (hplain : key.HasPlainPath)
    (hpage : pageUrl given host = .ok page) : IsPageOf page key := by
  rw [page_url_of_plain hkey hbase hhttp hplain] at hpage
  cases hpage
  have hfirst : Percent.encode Percent.path pagesSegment.toList = pagesSegment.toList := by decide
  refine ⟨⟨_, ?_, map_decode_of_literal hplain.literal⟩, rfl, rfl⟩
  rw [path_with_path hhttp.kind, List.map_cons, hfirst]

/-- A key whose page is what it leads to has a plain path. -/
theorem plain_of_page (hkey : Key.parse given = .ok key)
    (hbase : Url.parse host.toList = .ok base) (hhttp : base.IsHttp)
    (hpage : pageUrl given host = .ok page) (h : IsPageOf page key) : key.HasPlainPath := by
  have hwell := (Key.parse_eq_ok_iff.1 hkey).2
  obtain ⟨segments, hpath⟩ := parse_rooted hbase hhttp.kind
  have hjoin := join_path hhttp.kind hpath (path_begins key.pathParts)
  have hleads := join_leads_to_iff hhttp.kind hpath (path_begins key.pathParts)
    (no_slash_of_well_formed hwell) hjoin
  rw [page_url_eq hkey hbase hhttp] at hpage
  cases hpage
  exact (plain_iff_has_plain_path hwell).1 (hleads.1 h.leads_to)

/-! ## The site of a page -/

/-- No key leads away from the site of the host. The page of every key is found, with the scheme,
the user, the host and the port of the address that was given, and nothing else of that address has
a say in where it is. -/
theorem page_stays_at_site (hkey : Key.parse given = .ok key)
    (hbase : Url.parse host.toList = .ok base) (hhttp : base.IsHttp) :
    (∃ page, pageUrl given host = .ok page ∧ page.SameSite base) ∧
      ∀ otherHost otherBase, Url.parse otherHost.toList = .ok otherBase →
        otherBase.SameSite base → pageUrl given otherHost = pageUrl given host := by
  refine ⟨⟨_, page_url_eq hkey hbase hhttp, with_path_same_site ..⟩, ?_⟩
  intro otherHost otherBase hother hsame
  have hotherHttp : otherBase.IsHttp := by
    unfold IsHttp
    rw [hsame.scheme]
    exact hhttp
  rw [page_url_eq hkey hbase hhttp, page_url_eq hkey hother hotherHttp, hsame.with_path_eq]

/-- The address of the machine itself. -/
def localAddress : Url :=
  { scheme := "http".toList, host? := some (.ipv6 [0, 0, 0, 0, 0, 0, 0, 1]), path := .rooted [[]] }

/-- It with all else that an address may have. -/
def fullAddress : Url :=
  { localAddress with
    username := "ann".toList, password := "pw".toList, port? := some 8080,
    path := .rooted ["a".toList, "b".toList], query? := some "q".toList,
    fragment? := some "f".toList }

/-- Backslashes, points and what looks like a user or a port stay behind the host, and of two
spellings of the host it does not matter which was given. -/
theorem page_of_marks_stays_at_site :
    let given := "hi\\ve://@gold.core:80?\\/.."
    let host := "http://ann:pw@[::1]:8080/a/b?q#f"
    Url.parse host.toList = .ok fullAddress ∧
      (∃ page, pageUrl given host = .ok page ∧ page.SameSite fullAddress) ∧
      pageUrl given "HTTP:\\\\ann:pw@[0:0::1]:8080" = pageUrl given host := by
  intro given host
  have hkey : Key.parse given = .ok ⟨"hi\\ve", "@gold", "core:80?\\", ".."⟩ := by decide
  have hbase : Url.parse host.toList = .ok fullAddress := by decide +kernel
  have hother : Url.parse "HTTP:\\\\ann:pw@[0:0::1]:8080".toList =
      .ok { fullAddress with path := .rooted [[]], query? := none, fragment? := none } := by
    decide +kernel
  obtain ⟨hpage, hsame⟩ := page_stays_at_site hkey hbase (.inl rfl)
  exact ⟨hbase, hpage, hsame _ _ hother ⟨rfl, rfl, rfl, rfl, rfl⟩⟩

/-! ## The parts of a page -/

/-- The page of every key is found at every host of the web, and it is the page of the key's table
if and only if the parts of the key can stand in a path as they are. No two such keys share a page,
not even at different hosts. -/
theorem page_found_iff_plain (hkey : Key.parse given = .ok key)
    (hbase : Url.parse host.toList = .ok base) (hhttp : base.IsHttp) :
    (∃ page, pageUrl given host = .ok page ∧ (IsPageOf page key ↔ key.HasPlainPath)) ∧
      (key.HasPlainPath → ∀ otherGiven other otherHost otherBase,
        Key.parse otherGiven = .ok other → Url.parse otherHost.toList = .ok otherBase →
        otherBase.IsHttp → other.HasPlainPath →
        pageUrl otherGiven otherHost = pageUrl given host → other = key) := by
  have hpage := page_url_eq hkey hbase hhttp
  refine ⟨⟨_, hpage, plain_of_page hkey hbase hhttp hpage, fun hplain =>
    page_of_plain hkey hbase hhttp hplain hpage⟩, ?_⟩
  intro hplain otherGiven other otherHost otherBase hotherKey hotherBase hotherHttp hotherPlain
    hsame
  have hotherPage := page_of_plain hotherKey hotherBase hotherHttp hotherPlain (hsame.trans hpage)
  exact (page_of_plain hkey hbase hhttp hplain hpage).unique hotherPage

/-- A part may hold a blank, a percent sign or points, and two tables with such parts have pages of
their own. -/
theorem page_of_odd_parts_found :
    let key : Key := ⟨"hive", "gold", "core", "or ders%2"⟩
    key.HasPlainPath ∧
      (∃ page, pageUrl "hive://gold.core/or ders%2" "http://[::1]/a?b#c" = .ok page ∧
        IsPageOf page key) ∧
      pageUrl "hive://gold.core/..." "http://[::1]/" ≠
        pageUrl "hive://gold.core/or ders%2" "http://[::1]/a?b#c" := by
  intro key
  have hkey : Key.parse "hive://gold.core/or ders%2" = .ok key := by decide
  have hother : Key.parse "hive://gold.core/..." = .ok ⟨"hive", "gold", "core", "..."⟩ := by decide
  have hbase : Url.parse "http://[::1]/a?b#c".toList = .ok
      { localAddress with path := .rooted ["a".toList], query? := some "b".toList,
                          fragment? := some "c".toList } := by
    decide +kernel
  have hotherBase : Url.parse "http://[::1]/".toList = .ok localAddress := by decide +kernel
  have hplain : key.HasPlainPath := by decide +kernel
  have hotherPlain : (⟨"hive", "gold", "core", "..."⟩ : Key).HasPlainPath := by decide +kernel
  obtain ⟨⟨page, hpage, hiff⟩, hunique⟩ := page_found_iff_plain hkey hbase (.inl rfl)
  refine ⟨hplain, ⟨page, hpage, hiff.2 hplain⟩, fun hsame => ?_⟩
  have heq := hunique hplain _ _ _ _ hother hotherBase (.inl rfl) hotherPlain hsame
  exact absurd heq (by decide)

/-- A question mark ends the path of a page before its table's name does, and two tables whose names
differ by a tab share a page. -/
theorem page_of_marks_lost :
    Key.parse "hive://gold.core/orders?draft" = .ok ⟨"hive", "gold", "core", "orders?draft"⟩ ∧
      (∃ page, pageUrl "hive://gold.core/orders?draft" "http://[::1]/" = .ok page ∧
        page.query? = some "draft".toList) ∧
      Key.parse "hive://gold.core/or\tders" = .ok ⟨"hive", "gold", "core", "or\tders"⟩ ∧
      Key.parse "hive://gold.core/orders" = .ok ⟨"hive", "gold", "core", "orders"⟩ ∧
      pageUrl "hive://gold.core/or\tders" "http://[::1]/" =
        pageUrl "hive://gold.core/orders" "http://[::1]/" := by
  refine ⟨by decide, ⟨_, rfl, ?_⟩, by decide, by decide, by decide +kernel⟩
  decide +kernel

end CatalogView.Table
