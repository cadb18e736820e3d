import CatalogView.Screen.Arrangement
import Mathlib.Data.List.Induction

/-!
# Panels tile the screen

The area of the screen is cut in two again and again: the bars are cut off, then the side, and the
side is cut in its middle. `Tiles` says that no cell is lost and none is covered twice, and every
cut keeps it, however little room there is. `panels_tile_screen` says so of the panels, and that the
panel found at a cell is the one that covers it.
-/

namespace CatalogView.Screen

/-! ## Cutting an area -/

/-- Each cell of the area belongs to one of the rectangles, and no other cell belongs to any. -/
def Tiles (rects : List Rect) (area : Rect) : Prop :=
  ∀ column row, rects.countP (·.Contains column row) = if area.Contains column row then 1 else 0

variable {first second : List Rect} {left top : Nat}

/-- An area tiles itself. -/
theorem tiles_self (area : Rect) : Tiles [area] area := by
  intro column row
  simp only [List.countP_singleton, decide_eq_true_eq]

/-- What tiles two areas tiles an area that consists of both, if they have no cell in common. -/
theorem Tiles.append {one other area : Rect} (hfirst : Tiles first one)
    (hsecond : Tiles second other)
    (hboth : ∀ column row,
      area.Contains column row ↔ one.Contains column row ∨ other.Contains column row)
    (hapart : ∀ column row, one.Contains column row → ¬ other.Contains column row) :
    Tiles (first ++ second) area := by
  intro column row
  rw [List.countP_append, hfirst, hsecond]
  have hapart := hapart column row
  by_cases hone : one.Contains column row
  · rw [if_pos hone, if_neg (hapart hone), if_pos ((hboth ..).2 (.inl hone))]
  · by_cases hother : other.Contains column row
    · rw [if_neg hone, if_pos hother, if_pos ((hboth ..).2 (.inr hother))]
    · rw [if_neg hone, if_neg hother, if_neg fun h => ((hboth ..).1 h).elim hone hother]

/-- What tiles two areas one above the other tiles both together. -/
theorem Tiles.above {width upper lower : Nat} (hfirst : Tiles first ⟨left, top, width, upper⟩)
    (hsecond : Tiles second ⟨left, top + upper, width, lower⟩) :
    Tiles (first ++ second) ⟨left, top, width, upper + lower⟩ := by
  apply hfirst.append hsecond <;> intro column row <;>
    simp only [Rect.Contains, Rect.right, Rect.bottom] <;> omega

/-- What tiles two areas side by side tiles both together. -/
theorem Tiles.beside {height near far : Nat} (hfirst : Tiles first ⟨left, top, near, height⟩)
    (hsecond : Tiles second ⟨left + near, top, far, height⟩) :
    Tiles (first ++ second) ⟨left, top, near + far, height⟩ := by
  apply hfirst.append hsecond <;> intro column row <;>
    simp only [Rect.Contains, Rect.right, Rect.bottom] <;> omega

/-! ## Looking for the only one -/

/-- The only item that fits is found in whatever order the items are. -/
theorem find_of_perm {α : Type} {items others : List α} {fits : α → Bool}
    (hperm : others.Perm items) (hone : items.countP fits ≤ 1) :
    others.find? fits = items.find? fits := by
  rw [← List.head?_filter, ← List.head?_filter]
  rw [List.countP_eq_length_filter] at hone
  have hfiltered := hperm.filter fits
  match hitems : items.filter fits with
  | [] =>
      rw [hitems] at hfiltered
      rw [hfiltered.eq_nil]
  | [item] =>
      rw [hitems] at hfiltered
      rw [hfiltered.eq_singleton]
  | _ :: _ :: _ =>
      rw [hitems] at hone
      simp only [List.length_cons] at hone
      omega

/-- The only item that fits is the one that is found. -/
theorem find_eq_some_iff_of_count {α : Type} {items : List α} {fits : α → Bool}
    (hone : items.countP fits ≤ 1) (item : α) :
    items.find? fits = some item ↔ item ∈ items ∧ fits item = true := by
  refine ⟨fun h => ⟨List.mem_of_find?_eq_some h, List.find?_some h⟩, fun ⟨hmem, hfits⟩ => ?_⟩
  obtain ⟨front, back, rfl⟩ := List.append_of_mem hmem
  have hperm : (front ++ item :: back).Perm (item :: (front ++ back)) := List.perm_middle
  rw [← find_of_perm hperm.symm hone, List.find?_cons_of_pos hfits]

namespace Arrangement

/-! ## Where the panels are -/

/-- The panels tile the area of the screen. -/
theorem place_tiles (sideWidth : Nat) (area : Rect) :
    Tiles ((place sideWidth area).map (·.2)) area := by
  obtain ⟨left, top, width, height⟩ := area
  unfold place
  extract_lets above below middle side main upper
  have hrows : above + (middle + below) = height := by
    simp only [above, below, middle, topBarHeight, statusBarHeight]
    split <;> split <;> omega
  have hcolumns : main + side = width := by
    simp only [main, side]
    omega
  have hhalves : upper + (middle - upper) = middle := by
    simp only [upper]
    omega
  have hside := (tiles_self ⟨left + main, top + above, side, upper⟩).above
    (tiles_self ⟨left + main, top + above + upper, side, middle - upper⟩)
  rw [hhalves] at hside
  have hmiddle := (tiles_self ⟨left, top + above, main, middle⟩).beside hside
  rw [hcolumns] at hmiddle
  have hall := (tiles_self ⟨left, top, width, above⟩).above
    (hmiddle.above (tiles_self ⟨left, top + above + middle, width, below⟩))
  rw [hrows] at hall
  exact hall

/-- Every panel lies within the area of the screen. -/
theorem place_within (sideWidth : Nat) (area : Rect) :
    ∀ entry ∈ place sideWidth area, entry.2.Within area := by
  unfold place
  extract_lets above below middle side main upper
  have hrows : above + middle + below = area.height := by
    simp only [above, below, middle, topBarHeight, statusBarHeight]
    split <;> split <;> omega
  have hcolumns : main + side = area.width := by
    simp only [main, side]
    omega
  have hhalves : upper ≤ middle := by
    simp only [upper]
    omega
  simp only [List.forall_mem_cons, Rect.Within, Rect.right, Rect.bottom]
  refine ⟨?_, ?_, ?_, ?_, ?_, fun _ hmem => absurd hmem List.not_mem_nil⟩ <;> omega

variable (arrangement : Arrangement) (area : Rect)

/-- One panel covers a cell of the area, and none covers another cell. -/
theorem count_panels (column row : Nat) :
    (arrangement.fit area).panels.countP (·.2.Contains column row) =
      if area.Contains column row then 1 else 0 := by
  have htiles := place_tiles arrangement.sideWidth area column row
  rw [List.countP_map] at htiles
  exact htiles

/-- No cell is covered by two panels. -/
theorem count_panels_le (column row : Nat) :
    (arrangement.fit area).panels.countP (·.2.Contains column row) ≤ 1 := by
  rw [count_panels]
  split <;> omega

/-- The panel at a cell is the one that covers it. -/
theorem panel_at_eq_some_iff (column row : Nat) (panel : Panel) :
    (arrangement.fit area).panelAt? column row = some panel ↔
      ∃ rect, (panel, rect) ∈ (arrangement.fit area).panels ∧ rect.Contains column row := by
  show ((arrangement.fit area).panels.find? (·.2.Contains column row)).map (·.1) = some panel ↔ _
  simp only [Option.map_eq_some_iff, find_eq_some_iff_of_count (count_panels_le ..),
    decide_eq_true_eq]
  constructor
  · rintro ⟨⟨panel, rect⟩, ⟨hmem, hcontains⟩, rfl⟩
    exact ⟨rect, hmem, hcontains⟩
  · rintro ⟨rect, hmem, hcontains⟩
    exact ⟨(panel, rect), ⟨hmem, hcontains⟩, rfl⟩

/-- There is a panel at the cells of the area. -/
theorem panel_at_is_some_iff (column row : Nat) :
    ((arrangement.fit area).panelAt? column row).isSome = true ↔ area.Contains column row := by
  show (((arrangement.fit area).panels.find? (·.2.Contains column row)).map (·.1)).isSome = true ↔ _
  have hcount := count_panels arrangement area column row
  rw [Option.isSome_map, List.find?_isSome, ← List.countP_pos_iff, hcount]
  split <;> simp_all

/-- The panel at a cell does not depend on the order in which the panels are kept. -/
theorem panel_at_of_perm {panels : List (Panel × Rect)}
    (hperm : panels.Perm (arrangement.fit area).panels) (column row : Nat) :
    ({ arrangement.fit area with panels } : Arrangement).panelAt? column row =
      (arrangement.fit area).panelAt? column row := by
  have hfound := find_of_perm hperm (count_panels_le arrangement area column row)
  exact congrArg (Option.map Prod.fst) hfound

/-! ## The width of the side -/

/-- The number fits a signed word of sixteen bits. -/
def FitsWord (n : Int) : Prop := -32768 ≤ n ∧ n ≤ 32767

/-- The number fits if two comparisons say so. -/
instance (n : Int) : Decidable (FitsWord n) := inferInstanceAs (Decidable (_ ∧ _))

/-- Makes the side narrower several times. -/
def narrowAll (arrangement : Arrangement) (deltas : List Int) : Arrangement :=
  deltas.foldl narrow arrangement

/-- The last change is made after the others. -/
theorem narrow_all_append_singleton (deltas : List Int) (delta : Int) :
    arrangement.narrowAll (deltas ++ [delta]) = (arrangement.narrowAll deltas).narrow delta :=
  List.foldl_append

/-- However often it is changed, the side has a width between the least and the greatest. -/
theorem side_width_bounds (deltas : List Int) :
    30 ≤ (({} : Arrangement).narrowAll deltas).sideWidth ∧
      (({} : Arrangement).narrowAll deltas).sideWidth ≤ 90 := by
  induction deltas using List.reverseRecOn with
  | nil => decide
  | append_singleton deltas delta ih =>
      rw [narrow_all_append_singleton]
      simp only [narrow, minSideWidth, maxSideWidth]
      omega

/-- Within these bounds the side can be changed by any number of columns that leaves room for the
greatest width in a word. -/
theorem fits_word_of_bounds {width : Nat} {delta : Int} (hleast : 30 ≤ width)
    (hgreatest : width ≤ 90) (hlow : -32677 ≤ delta) (hhigh : delta ≤ 32767) :
    FitsWord (width - delta) := by
  simp only [FitsWord]
  omega

/-! ## The screen -/

/-- The filters and the joins share the side, which has the width it asks for as far as the
conversations leave it. -/
theorem side_shared :
    ∃ filters joins, (arrangement.fit area).panels.lookup .filters = some filters ∧
      (arrangement.fit area).panels.lookup .joins = some joins ∧
      filters.width = min arrangement.sideWidth (area.width - 40) ∧
      joins.width = min arrangement.sideWidth (area.width - 40) ∧
      filters.height ≤ joins.height + 1 ∧ joins.height ≤ filters.height + 1 := by
  refine ⟨_, _, rfl, rfl, rfl, rfl, ?_, ?_⟩ <;> dsimp only <;> omega

/-- On a screen of any size, wherever it is and however often the width of the side was changed, the
five panels cover each cell once and nothing else. So the panel found at a cell is the one there,
in whatever order they are kept. No edge of a panel has a number above the bound, the filters and
the joins share the side, and its width never gets out of the bounds, nor out of a word while it is
computed. -/
theorem panels_tile_screen (hright : area.right ≤ Rect.edge) (hbottom : area.bottom ≤ Rect.edge)
    (deltas : List Int) :
    let resized := ({} : Arrangement).narrowAll deltas
    let drawn := resized.fit area
    -- where the panels are
    (drawn.panels.map (·.1) = [.topBar, .conversations, .filters, .joins, .statusBar] ∧
      ∀ column row, drawn.panels.countP (·.2.Contains column row) =
        if area.Contains column row then 1 else 0) ∧
    -- what is found at a cell
    (∀ column row,
      ((drawn.panelAt? column row).isSome = true ↔ area.Contains column row) ∧
      (∀ panel, drawn.panelAt? column row = some panel ↔
        ∃ rect, (panel, rect) ∈ drawn.panels ∧ rect.Contains column row) ∧
      ∀ panels, panels.Perm drawn.panels →
        ({ drawn with panels } : Arrangement).panelAt? column row =
          drawn.panelAt? column row) ∧
    -- their edges
    (∀ entry ∈ drawn.panels, entry.2.right ≤ 65535 ∧ entry.2.bottom ≤ 65535) ∧
    -- the side
    (∃ filters joins, drawn.panels.lookup .filters = some filters ∧
      drawn.panels.lookup .joins = some joins ∧
      filters.width = min resized.sideWidth (area.width - 40) ∧
      joins.width = min resized.sideWidth (area.width - 40) ∧
      filters.height ≤ joins.height + 1 ∧ joins.height ≤ filters.height + 1) ∧
    -- the width that the side asks for
    ((30 ≤ resized.sideWidth ∧ resized.sideWidth ≤ 90) ∧
      ((∀ delta ∈ deltas, -32677 ≤ delta ∧ delta ≤ 32767) →
        ∀ past delta, past ++ [delta] <+: deltas →
          FitsWord ((({} : Arrangement).narrowAll past).sideWidth - delta))) := by
  intro resized drawn
  refine ⟨⟨rfl, count_panels resized area⟩, fun column row => ⟨panel_at_is_some_iff .., ?_, ?_⟩,
    fun entry hentry => ?_, side_shared resized area, side_width_bounds deltas, ?_⟩
  · exact panel_at_eq_some_iff resized area column row
  · exact fun panels hperm => panel_at_of_perm resized area hperm column row
  · obtain ⟨-, hentryRight, -, hentryBottom⟩ := place_within resized.sideWidth area entry hentry
    exact ⟨Nat.le_trans hentryRight hright, Nat.le_trans hentryBottom hbottom⟩
  · intro hdeltas past delta hpast
    obtain ⟨hleast, hgreatest⟩ := side_width_bounds past
    obtain ⟨hlow, hhigh⟩ := hdeltas delta (hpast.subset (by simp))
    exact fits_word_of_bounds hleast hgreatest hlow hhigh

/-- In the last corner that a screen can be in, with too little room for the side, the panels still
cover the last cell, and the greatest changes of the width are no problem. -/
theorem panels_tile_last_corner :
    let corner : Rect := ⟨65470, 65533, 65, 2⟩
    let deltas : List Int := [-32677, -32677, 32767, 2]
    let resized := ({} : Arrangement).narrowAll deltas
    (corner.right ≤ Rect.edge ∧ corner.bottom ≤ Rect.edge) ∧
      (∀ delta ∈ deltas, -32677 ≤ delta ∧ delta ≤ 32767) ∧
      ((resized.fit corner).panelAt? 65534 65534).isSome = true ∧
      (resized.fit corner).panelAt? 65535 65534 = none ∧
      FitsWord ((({} : Arrangement).narrowAll [-32677]).sideWidth - -32677) := by
  intro corner deltas resized
  have hright : corner.right ≤ Rect.edge := by decide
  have hbottom : corner.bottom ≤ Rect.edge := by decide
  have hdeltas : ∀ delta ∈ deltas, -32677 ≤ delta ∧ delta ≤ 32767 := by decide
  obtain ⟨-, hfound, -, -, -, hword⟩ := panels_tile_screen corner hright hbottom deltas
  refine ⟨⟨hright, hbottom⟩, hdeltas, (hfound 65534 65534).1.2 (by decide), ?_,
    hword hdeltas [-32677] (-32677) ⟨[32767, 2], rfl⟩⟩
  have hnot := mt (hfound 65535 65534).1.1 (by decide)
  simpa using hnot

end Arrangement

end CatalogView.Screen
