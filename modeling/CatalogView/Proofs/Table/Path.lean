import CatalogView.Proofs.Table.Page

/-!
# Paths of tables

The path of a table's page holds the parts of the table as they are, in another order than its
resource key does. No part of a key that was read holds a slash, so the parts are found again
between the slashes of the path (`Key.split_at_path`), and tables with different keys have different
paths (`Key.path_determines_key`).
-/

namespace CatalogView.Table.Key

open CatalogView.Text CatalogView.Url

variable {key other : Key}

/-- Between the slashes of the path stand the segment for tables and the parts of the key. The path
begins with a slash, and nothing stands before it. -/
theorem split_at_path (h : key.IsWellFormed) :
    splitAt '/' key.path.toList = [] :: pagesSegment.toList :: key.pathParts := by
  have hparts : ∀ part ∈ [] :: pagesSegment.toList :: key.pathParts, '/' ∉ part := by
    rw [List.forall_mem_cons]
    exact ⟨List.not_mem_nil, no_slash_of_well_formed h⟩
  rw [path_eq_spelling]
  exact split_at_flat_map hparts

/-- Well-formed keys with the same path are the same. -/
theorem path_injective (hkey : key.IsWellFormed) (hother : other.IsWellFormed)
    (h : key.path = other.path) : key = other := by
  have hsplit := split_at_path hkey
  rw [h, split_at_path hother] at hsplit
  obtain ⟨database, cluster, schema, name⟩ := key
  obtain ⟨otherDatabase, otherCluster, otherSchema, otherName⟩ := other
  simp only [pathParts, List.cons.injEq, String.toList_inj, and_true, true_and] at hsplit
  obtain ⟨rfl, rfl, rfl, rfl⟩ := hsplit
  rfl

/-- Two texts that are read as keys give the same path if and only if they are the same key, which
is to say that they are the same text but for the blanks around it. Each of them, as a key or as the
table with that key, has a path that holds the four parts between its slashes. -/
theorem path_determines_key :
    (∀ given otherGiven key other, parse given = .ok key → parse otherGiven = .ok other →
      (key.path = other.path ↔ trim given.toList = trim otherGiven.toList)) ∧
    (∀ given key, parse given = .ok key →
      key.table.path = key.path ∧
      splitAt '/' key.path.toList =
        ["".toList, "table_detail".toList, key.cluster.toList, key.database.toList,
          key.schema.toList, key.name.toList]) := by
  constructor
  · intro given otherGiven key other hkey hother
    obtain ⟨hgiven, hwell⟩ := parse_eq_ok_iff.1 hkey
    obtain ⟨hotherGiven, hotherWell⟩ := parse_eq_ok_iff.1 hother
    rw [hgiven, hotherGiven, String.toList_inj]
    constructor
    · intro hpath
      rw [path_injective hwell hotherWell hpath]
    · intro htext
      rw [text_injective hwell hotherWell htext]
  · intro given key hkey
    exact ⟨rfl, split_at_path (parse_eq_ok_iff.1 hkey).2⟩

-- Tables of a document need not have such parts, and two of them can have the same path.
example :
    let inName : Ref := { cluster := "gold", database := "hive", schema := "core", name := "a/b" }
    let inSchema : Ref := { cluster := "gold", database := "hive", schema := "core/a", name := "b" }
    inName ≠ inSchema ∧ inName.path = inSchema.path := by
  decide +kernel

end CatalogView.Table.Key
