import CatalogView.Proofs.Screen.Wrap
import CatalogView.Screen.Canvas

/-!
# Drawing in a region

`DrawnIn` relates a canvas before and after something was drawn: it has the same size, no cell
outside a region has changed, and it is not overrun unless the region reaches beyond the canvas.
Everything that is drawn on a rectangle is confined to the rectangle in this sense, which each
operation below states. Glyphs are so up to the column that they begin before, and
`put_lines_overrun_iff` says that a canvas that is overrun by them was because of one that begins
beyond its edge.
-/

namespace CatalogView.Screen.Canvas

/-- What is in the cell of a column and row, if there is one. -/
def cell? (canvas : Canvas) (column row : Nat) : Option Cell :=
  if column < canvas.width then canvas.cells[row * canvas.width + column]? else none

/-- All that has been drawn since is in a region. -/
structure DrawnIn (region : Nat → Nat → Prop) (before after : Canvas) : Prop where
  width_eq : after.width = before.width
  height_eq : after.height = before.height
  kept : ∀ column row, ¬ region column row → after.cell? column row = before.cell? column row
  overrun : before.isOverrun = true → after.isOverrun = true
  not_overrun : (∀ column row, region column row → before.area.Contains column row) →
    after.isOverrun = true → before.isOverrun = true

variable {region wider : Nat → Nat → Prop} {before between after canvas : Canvas} {rect : Rect}

/-- Nothing was drawn. -/
theorem DrawnIn.refl (canvas : Canvas) : DrawnIn region canvas canvas :=
  ⟨rfl, rfl, fun _ _ _ => rfl, id, fun _ => id⟩

/-- The canvas still covers the same area. -/
theorem DrawnIn.area_eq (h : DrawnIn region before after) : after.area = before.area := by
  simp only [area, h.width_eq, h.height_eq]

/-- One thing was drawn after another. -/
theorem DrawnIn.trans (hfirst : DrawnIn region before between)
    (hsecond : DrawnIn region between after) : DrawnIn region before after where
  width_eq := hsecond.width_eq.trans hfirst.width_eq
  height_eq := hsecond.height_eq.trans hfirst.height_eq
  kept column row h := (hsecond.kept column row h).trans (hfirst.kept column row h)
  overrun h := hsecond.overrun (hfirst.overrun h)
  not_overrun hinside h :=
    hfirst.not_overrun hinside (hsecond.not_overrun (by rwa [hfirst.area_eq]) h)

/-- What is drawn in a region is drawn in every wider one. -/
theorem DrawnIn.mono (h : DrawnIn region before after)
    (hwider : ∀ column row, region column row → wider column row) : DrawnIn wider before after where
  width_eq := h.width_eq
  height_eq := h.height_eq
  kept column row hout := h.kept column row fun hin => hout (hwider column row hin)
  overrun := h.overrun
  not_overrun hinside :=
    h.not_overrun fun column row hin => hinside column row (hwider column row hin)

/-- Many things were drawn one after the other. -/
theorem DrawnIn.foldl {α : Type} {draw : Canvas → α → Canvas} {items : List α}
    (h : ∀ item ∈ items, ∀ canvas, DrawnIn region canvas (draw canvas item)) (canvas : Canvas) :
    DrawnIn region canvas (items.foldl draw canvas) := by
  induction items generalizing canvas with
  | nil => exact .refl canvas
  | cons item items ih =>
      obtain ⟨hitem, hitems⟩ := List.forall_mem_cons.1 h
      exact (hitem canvas).trans (ih hitems _)

/-- A canvas that is drawn on within its area is overrun only if it was before. -/
theorem DrawnIn.overrun_eq (h : DrawnIn region before after)
    (hinside : ∀ column row, region column row → before.area.Contains column row) :
    after.isOverrun = before.isOverrun :=
  Bool.eq_iff_iff.2 ⟨h.not_overrun hinside, h.overrun⟩

/-! ## Cells -/

/-- A cell belongs to the area of the canvas if it has a column and a row of it. -/
theorem area_contains_iff {column row : Nat} :
    canvas.area.Contains column row ↔ column < canvas.width ∧ row < canvas.height := by
  simp only [area, Rect.Contains, Rect.right, Rect.bottom]
  omega

/-- Cells in different places have different numbers. -/
theorem index_ne {width column row column' row' : Nat} (hcolumn : column < width)
    (hcolumn' : column' < width) (hne : ¬ (column' = column ∧ row' = row)) :
    row * width + column ≠ row' * width + column' := by
  intro heq
  have hmod := congrArg (· % width) heq
  simp only [Nat.mul_add_mod_self_right, Nat.mod_eq_of_lt hcolumn,
    Nat.mod_eq_of_lt hcolumn'] at hmod
  subst hmod
  have hrow := Nat.eq_of_mul_eq_mul_right (Nat.zero_lt_of_lt hcolumn) (Nat.add_right_cancel heq)
  exact hne ⟨rfl, hrow.symm⟩

/-- Changing a cell of a region. -/
theorem change_in {column row : Nat} (hin : region column row) (f : Cell → Cell) (canvas : Canvas) :
    DrawnIn region canvas (canvas.change column row f) := by
  unfold change
  split
  case isTrue hcell =>
    refine ⟨rfl, rfl, fun column' row' hout => ?_, id, fun _ => id⟩
    simp only [cell?]
    split
    case isTrue hcolumn =>
      have hne : ¬ (column' = column ∧ row' = row) := by
        rintro ⟨rfl, rfl⟩
        exact hout hin
      rw [Array.getElem?_modify, if_neg (index_ne hcell.1 hcolumn hne)]
    case isFalse => rfl
  case isFalse hcell =>
    exact ⟨rfl, rfl, fun _ _ _ => rfl, fun _ => rfl,
      fun hinside _ => absurd (area_contains_iff.1 (hinside column row hin)) hcell⟩

/-- Drawing a symbol in a cell of a region. -/
theorem put_in {column row : Nat} (hin : region column row) (symbol : List Char) (style : Style)
    (canvas : Canvas) : DrawnIn region canvas (canvas.put column row symbol style) :=
  change_in hin _ canvas

/-- A symbol is drawn somewhere. -/
theorem put_drawn (column row : Nat) (symbol : List Char) (style : Style) (canvas : Canvas) :
    DrawnIn (fun _ _ => True) canvas (canvas.put column row symbol style) :=
  put_in trivial symbol style canvas

/-- Drawing a symbol in several cells of a region. -/
theorem put_all_in {cells : List (Nat × Nat)} (hin : ∀ cell ∈ cells, region cell.1 cell.2)
    (symbol : Char) (style : Style) (canvas : Canvas) :
    DrawnIn region canvas (canvas.putAll cells symbol style) :=
  DrawnIn.foldl (fun cell hmem canvas => put_in (hin cell hmem) _ _ canvas) canvas

/-! ## Rectangles -/

/-- Changing all cells of a rectangle. -/
theorem change_all_in (rect : Rect) (f : Cell → Cell) (canvas : Canvas) :
    DrawnIn rect.Contains canvas (canvas.changeAll rect f) := by
  refine DrawnIn.foldl (fun row hrow canvas => ?_) canvas
  refine DrawnIn.foldl (fun column hcolumn canvas => change_in ?_ f canvas) canvas
  have hrow := List.mem_range'_1.1 hrow
  have hcolumn := List.mem_range'_1.1 hcolumn
  exact ⟨hcolumn.1, hcolumn.2, hrow.1, hrow.2⟩

/-- Making a rectangle blank. -/
theorem clear_in (rect : Rect) (canvas : Canvas) :
    DrawnIn rect.Contains canvas (canvas.clear rect) :=
  change_all_in rect _ canvas

/-- Giving a rectangle a style. -/
theorem paint_in (rect : Rect) (style : Style) (canvas : Canvas) :
    DrawnIn rect.Contains canvas (canvas.paint rect style) :=
  change_all_in rect _ canvas

/-- Drawing a border with a title. -/
theorem put_border_in (rect : Rect) (title : String) (style : Style) (canvas : Canvas) :
    DrawnIn rect.Contains canvas (canvas.putBorder rect title style) := by
  unfold putBorder
  split
  case isTrue => exact .refl canvas
  case isFalse hsize =>
    simp only [Rect.isEmpty, Bool.or_eq_true, beq_iff_eq, not_or] at hsize
    extract_lets columns rows last lowest leftSide topSide rightSide bottomSide lowerRight
      upperRight lowerLeft upperLeft
    -- the cells of a column, of a row, and of a corner of the rectangle
    have hrows : ∀ column, rect.left ≤ column → column < rect.right →
        ∀ cell ∈ rows.map (column, ·), rect.Contains cell.1 cell.2 := by
      intro column hleft hright
      simp only [List.forall_mem_map, rows, List.mem_range'_1]
      exact fun row hrow => ⟨hleft, hright, hrow.1, hrow.2⟩
    have hcolumns : ∀ row, rect.top ≤ row → row < rect.bottom →
        ∀ cell ∈ columns.map (·, row), rect.Contains cell.1 cell.2 := by
      intro row htop hbottom
      simp only [List.forall_mem_map, columns, List.mem_range'_1]
      exact fun column hcolumn => ⟨hcolumn.1, hcolumn.2, htop, hbottom⟩
    have hleft : rect.left ≤ rect.left ∧ rect.left < rect.right := by
      simp only [Rect.right]
      omega
    have hlast : rect.left ≤ last ∧ last < rect.right := by
      simp only [last, Rect.right]
      omega
    have htop : rect.top ≤ rect.top ∧ rect.top < rect.bottom := by
      simp only [Rect.bottom]
      omega
    have hlowest : rect.top ≤ lowest ∧ lowest < rect.bottom := by
      simp only [lowest, Rect.bottom]
      omega
    have hleftSide : DrawnIn rect.Contains canvas leftSide :=
      put_all_in (hrows _ hleft.1 hleft.2) _ _ _
    have htopSide : DrawnIn rect.Contains leftSide topSide :=
      put_all_in (hcolumns _ htop.1 htop.2) _ _ _
    have hrightSide : DrawnIn rect.Contains topSide rightSide :=
      put_all_in (hrows _ hlast.1 hlast.2) _ _ _
    have hbottomSide : DrawnIn rect.Contains rightSide bottomSide :=
      put_all_in (hcolumns _ hlowest.1 hlowest.2) _ _ _
    have hlowerRight : DrawnIn rect.Contains bottomSide lowerRight :=
      put_in ⟨hlast.1, hlast.2, hlowest.1, hlowest.2⟩ _ _ _
    have hupperRight : DrawnIn rect.Contains lowerRight upperRight :=
      put_in ⟨hlast.1, hlast.2, htop.1, htop.2⟩ _ _ _
    have hlowerLeft : DrawnIn rect.Contains upperRight lowerLeft :=
      put_in ⟨hleft.1, hleft.2, hlowest.1, hlowest.2⟩ _ _ _
    have hupperLeft : DrawnIn rect.Contains lowerLeft upperLeft :=
      put_in ⟨hleft.1, hleft.2, htop.1, htop.2⟩ _ _ _
    have hsides := hleftSide.trans (htopSide.trans (hrightSide.trans hbottomSide))
    have hcorners := hlowerRight.trans (hupperRight.trans (hlowerLeft.trans hupperLeft))
    refine (hsides.trans hcorners).trans ?_
    refine DrawnIn.foldl (fun entry hmem canvas => put_in ?_ _ _ canvas) upperLeft
    have hlt := List.snd_lt_of_mem_zipIdx hmem
    rw [List.length_take] at hlt
    simp only [Rect.Contains, Rect.right, Rect.bottom]
    omega

/-! ## Glyphs -/

/-- Drawing glyphs, as far as the columns that they begin at. -/
theorem put_glyphs_in {limit column row : Nat} {glyphs : List Glyph}
    (hstart : StartBefore limit column glyphs) (canvas : Canvas) :
    DrawnIn (Rect.Contains ⟨column, row, limit - column, 1⟩) canvas
      (canvas.putGlyphs column row glyphs) := by
  induction glyphs generalizing canvas column with
  | nil => exact .refl canvas
  | cons glyph glyphs ih =>
      unfold putGlyphs
      split
      case isTrue hwidth =>
        have hrest := hstart.2
        rw [hwidth, Nat.add_zero] at hrest
        exact ih hrest canvas
      case isFalse hwidth =>
        have hlt := hstart.1 (Nat.pos_of_ne_zero hwidth)
        have hcell : Rect.Contains ⟨column, row, limit - column, 1⟩ column row := by
          simp only [Rect.Contains, Rect.right, Rect.bottom]
          omega
        refine (put_in hcell glyph.symbol glyph.style canvas).trans ((ih hstart.2 _).mono ?_)
        intro column' row' hin
        simp only [Rect.Contains, Rect.right, Rect.bottom] at hin ⊢
        omega

/-- Glyphs are drawn somewhere. -/
theorem put_glyphs_drawn (column row : Nat) (glyphs : List Glyph) (canvas : Canvas) :
    DrawnIn (fun _ _ => True) canvas (canvas.putGlyphs column row glyphs) := by
  induction glyphs generalizing canvas column with
  | nil => exact .refl canvas
  | cons glyph glyphs ih =>
      unfold putGlyphs
      split
      · exact ih column canvas
      · exact (put_drawn ..).trans (ih _ _)

/-- A glyph that begins beyond the edge overruns the canvas. -/
theorem put_glyphs_overrun {column : Nat} {glyphs : List Glyph}
    (hbeyond : ¬ StartBefore canvas.width column glyphs) (row : Nat) :
    (canvas.putGlyphs column row glyphs).isOverrun = true := by
  induction glyphs generalizing canvas column with
  | nil => exact absurd trivial hbeyond
  | cons glyph glyphs ih =>
      unfold putGlyphs
      split
      case isTrue hwidth =>
        refine ih fun hrest => hbeyond ⟨fun hpos => by omega, ?_⟩
        rwa [hwidth]
      case isFalse hwidth =>
        by_cases hcolumn : column < canvas.width
        · refine ih fun hrest => hbeyond ⟨fun _ => hcolumn, ?_⟩
          rwa [(put_drawn ..).width_eq] at hrest
        · refine (put_glyphs_drawn _ _ _ _).overrun ?_
          unfold put change
          rw [if_neg fun hcell => hcolumn hcell.1]

variable {lines : List (List Glyph)} {area : Rect}

/-- Drawing lines in an area, as far as the columns that their glyphs begin at. -/
theorem put_lines_in {limit : Nat}
    (hstart : ∀ line ∈ lines.take area.height, StartBefore limit area.left line) (canvas : Canvas) :
    DrawnIn (Rect.Contains { area with width := limit - area.left }) canvas
      (canvas.putLines area lines) := by
  refine DrawnIn.foldl (fun entry hmem canvas => ?_) canvas
  have hle := List.le_snd_of_mem_zipIdx hmem
  have hlt := List.snd_lt_add_of_mem_zipIdx hmem
  rw [List.length_take] at hlt
  have hline := hstart entry.1 (List.fst_mem_of_mem_zipIdx hmem)
  refine (put_glyphs_in hline canvas).mono fun column row hin => ?_
  simp only [Rect.Contains, Rect.right, Rect.bottom] at hin ⊢
  omega

/-- Lines are drawn somewhere. -/
theorem put_lines_drawn (area : Rect) (lines : List (List Glyph)) (canvas : Canvas) :
    DrawnIn (fun _ _ => True) canvas (canvas.putLines area lines) :=
  DrawnIn.foldl (fun _ _ canvas => put_glyphs_drawn _ _ _ canvas) canvas

/-- Where one of many things overruns every canvas of that width, all of them do. -/
theorem overrun_of_mem {α : Type} {draw : Canvas → α → Canvas} {items : List α} {item : α}
    (hdrawn : ∀ item ∈ items, ∀ canvas, DrawnIn (fun _ _ => True) canvas (draw canvas item))
    (hmem : item ∈ items)
    (hitem : ∀ other : Canvas, other.width = canvas.width → (draw other item).isOverrun = true) :
    (items.foldl draw canvas).isOverrun = true := by
  obtain ⟨front, back, rfl⟩ := List.append_of_mem hmem
  obtain ⟨hfront, hback⟩ := List.forall_mem_append.1 hdrawn
  rw [List.foldl_append, List.foldl_cons]
  refine (DrawnIn.foldl (List.forall_mem_cons.1 hback).2 _).overrun ?_
  exact hitem _ (DrawnIn.foldl hfront canvas).width_eq

/-- Lines on the canvas overrun it if and only if a glyph of theirs begins beyond its edge. -/
theorem put_lines_overrun_iff (hbottom : area.bottom ≤ canvas.height) :
    (canvas.putLines area lines).isOverrun = true ↔
      canvas.isOverrun = true ∨
        ∃ line ∈ lines.take area.height, ¬ StartBefore canvas.width area.left line := by
  constructor
  · intro hoverrun
    by_cases hstart : ∀ line ∈ lines.take area.height, StartBefore canvas.width area.left line
    · refine .inl ((put_lines_in hstart canvas).not_overrun (fun column row hin => ?_) hoverrun)
      simp only [Rect.Contains, Rect.right, Rect.bottom] at hin hbottom
      rw [area_contains_iff]
      omega
    · simp only [Classical.not_forall, exists_prop] at hstart
      exact .inr hstart
  · rintro (hoverrun | ⟨line, hmem, hbeyond⟩)
    · exact (put_lines_drawn area lines canvas).overrun hoverrun
    · rw [← List.zipIdx_map_fst area.top (lines.take area.height), List.mem_map] at hmem
      obtain ⟨entry, hentry, rfl⟩ := hmem
      refine overrun_of_mem (fun _ _ canvas => put_glyphs_drawn _ _ _ canvas) hentry ?_
      intro other hwidth
      exact put_glyphs_overrun (by rwa [hwidth]) _

end CatalogView.Screen.Canvas
