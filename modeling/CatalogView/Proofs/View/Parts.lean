import CatalogView.Proofs.Screen.Confined
import CatalogView.Proofs.Screen.Tiling
import CatalogView.Proofs.Viewer.Popup

/-!
# The parts of the screen

The viewer is drawn part by part: the panels, and over them the popups that are shown. Each part has
a rectangle, which lies within the screen, and those of the popups are in its middle. What a part
consists of besides wrapped text stays in its rectangle. Wrapped text does as well, up to the width
of its glyphs: a glyph can begin to the right of the rectangle if one of them is wide.
`drawn_on_screen` says exactly when that overruns the screen, and that it does not as long as no
glyph is wider than the room beside its part. `wide_glyph_beyond_screen` is a run to an error
whose text is drawn beyond the edge.
-/

namespace CatalogView

open Screen

/-- The rectangle that a popup has on a screen. -/
def Popup.area (screen : Rect) : Popup → Rect
  | .help => screen.centered View.popupWidth View.helpHeight
  | .error => screen.centered View.popupWidth View.errorHeight

/-- A popup lies within the screen. -/
theorem Popup.area_within (screen : Rect) (popup : Popup) : (popup.area screen).Within screen := by
  cases popup <;> exact screen.centered_within (by decide) (by decide)

/-- A popup is in the middle of the screen. -/
theorem Popup.area_is_centred (screen : Rect) (popup : Popup) :
    (popup.area screen).IsCentredIn screen := by
  cases popup <;> exact screen.centered_is_centred (by decide) (by decide) (by decide)

/-! ## Text in an area -/

namespace View

variable {area : Rect} {trims : Bool} {skipped : Nat} {lines : List Line}

/-- The rows of an area in which wrapped lines are shown. -/
def wrappedRows (area : Rect) (trims : Bool) (skipped : Nat) (lines : List Line) :
    List (List Glyph) :=
  if area.isEmpty then []
  else
    let wrap : Wrap := { limit := area.width, trims }
    ((lines.flatMap fun line => wrap.lines line.glyphs).drop skipped).take area.height

/-- There are no more of them than the area is high. -/
theorem take_wrapped_rows (area : Rect) (trims : Bool) (skipped : Nat) (lines : List Line) :
    (wrappedRows area trims skipped lines).take area.height =
      wrappedRows area trims skipped lines := by
  unfold wrappedRows
  split
  · exact List.take_nil
  · rw [List.take_take, Nat.min_self]

/-- Without lines nothing is drawn. -/
@[simp] theorem put_no_lines (canvas : Canvas) (area : Rect) :
    canvas.putLines area [] = canvas := by
  rw [Canvas.putLines, List.take_nil]
  rfl

/-- These rows are what is drawn. -/
theorem put_wrapped_eq (canvas : Canvas) (area : Rect) (trims : Bool) (skipped : Nat)
    (lines : List Line) :
    putWrapped canvas area trims skipped lines =
      canvas.putLines area (wrappedRows area trims skipped lines) := by
  unfold putWrapped wrappedRows
  split
  · exact (put_no_lines canvas area).symm
  · simp only [Canvas.putLines, List.take_take, Nat.min_self]

/-- Without lines there are no rows. -/
@[simp] theorem wrapped_rows_nil (area : Rect) (trims : Bool) (skipped : Nat) :
    wrappedRows area trims skipped [] = [] := by
  unfold wrappedRows
  split
  · rfl
  · show (List.drop skipped []).take area.height = []
    rw [List.drop_nil, List.take_nil]

/-- Only an area with a width has rows. The glyphs in them begin before its right edge, or after it
by less than a glyph is wide that fits in a row. -/
theorem wrapped_rows_start {widest : Nat}
    (hwidest : ∀ line ∈ lines, ∀ glyph ∈ Line.glyphs line,
      glyph.width ≤ area.width → glyph.width ≤ widest) :
    ∀ row ∈ wrappedRows area trims skipped lines,
      0 < area.width ∧ StartBefore (area.right + widest) area.left row := by
  intro row hmem
  unfold wrappedRows at hmem
  split at hmem
  case isTrue => exact absurd hmem List.not_mem_nil
  case isFalse hsize =>
    simp only [Rect.isEmpty, Bool.or_eq_true, beq_iff_eq, not_or] at hsize
    have hwrapped := List.mem_of_mem_drop (List.mem_of_mem_take hmem)
    obtain ⟨line, hline, hrow⟩ := List.mem_flatMap.1 hwrapped
    have hwidth := Nat.pos_of_ne_zero hsize.1
    have hstart := (wrapped_lines_start hwidth (hwidest line hline) row hrow).shift area.left
    rw [Nat.add_zero, ← Nat.add_assoc] at hstart
    exact ⟨hwidth, hstart⟩

/-- Lines that are cut off stay in their area. -/
theorem put_cut_in (area : Rect) (lines : List Line) (canvas : Canvas) :
    Canvas.DrawnIn area.Contains canvas (putCut canvas area lines) := by
  unfold putCut
  split
  · exact .refl canvas
  · have hstart : ∀ row ∈ (lines.map fun line => cut area.width 0 line.glyphs).take area.height,
        StartBefore area.right area.left row := by
      intro row hmem
      obtain ⟨line, -, rfl⟩ := List.mem_map.1 (List.mem_of_mem_take hmem)
      exact (cut_start_before area.width 0 line.glyphs).shift area.left
    refine (Canvas.put_lines_in hstart canvas).mono fun column row hin => ?_
    simp only [Rect.Contains, Rect.right, Rect.bottom] at hin ⊢
    omega

/-- The frame of a popup stays in its rectangle. -/
theorem put_popup_in (rect : Rect) (title : String) (canvas : Canvas) :
    Canvas.DrawnIn rect.Contains canvas (putPopup canvas rect title) :=
  (Canvas.clear_in rect canvas).trans (Canvas.put_border_in rect title {} _)

end View

/-! ## Parts -/

/-- A part of the screen: a panel, or a popup over the panels. -/
inductive Part where
  | panel (which : Panel)
  | popup (which : Popup)
  deriving DecidableEq, Repr

namespace Part

/-- The lines of a part that are wrapped. -/
def lines (viewer : Viewer) : Part → List Line
  | .panel which =>
    match which.focus? with
    | some focus => (View.content viewer focus).2
    | none => []
  | .popup .help => []
  | .popup .error => Line.ofText (View.errorText viewer.error?)

/-- The rows in which a part shows them. -/
def rows (viewer : Viewer) (rect : Rect) (part : Part) : List (List Glyph) :=
  match part with
  | .panel which =>
    let skipped := (which.focus?.map viewer.scrolls.get).getD 0
    View.wrappedRows rect.interior false skipped (part.lines viewer)
  | .popup _ => View.wrappedRows rect.interior true 0 (part.lines viewer)

/-- Draws what a part consists of besides wrapped lines. -/
def putFrame (viewer : Viewer) (canvas : Canvas) (rect : Rect) : Part → Canvas
  | .panel which =>
    match which.focus? with
    | some focus =>
      canvas.putBorder rect (View.content viewer focus).1 (View.borderStyle viewer focus)
    | none => View.putPanel viewer canvas which rect
  | .popup .help =>
    View.putCut (View.putPopup canvas rect View.helpTitle) rect.interior
      (Line.ofText View.helpText)
  | .popup .error => View.putPopup canvas rect View.errorTitle

/-- Draws a part in a rectangle. -/
def put (viewer : Viewer) (canvas : Canvas) (rect : Rect) (part : Part) : Canvas :=
  (part.putFrame viewer canvas rect).putLines rect.interior (part.rows viewer rect)

variable {viewer : Viewer} {canvas : Canvas} {rect : Rect} {part : Part}

/-- A part without wrapped lines is drawn with its frame. -/
theorem put_eq_frame (part : Part) (viewer : Viewer) (h : part.lines viewer = []) :
    part.put viewer canvas rect = part.putFrame viewer canvas rect := by
  have hrows : part.rows viewer rect = [] := by
    cases part <;> simp only [rows, h, View.wrapped_rows_nil]
  rw [put, hrows, View.put_no_lines]

/-- A panel is drawn as such a part. -/
theorem put_panel_eq (viewer : Viewer) (canvas : Canvas) (panel : Panel) (rect : Rect) :
    View.putPanel viewer canvas panel rect = (Part.panel panel).put viewer canvas rect := by
  cases panel with
  | topBar => exact (put_eq_frame (.panel .topBar) viewer rfl).symm
  | statusBar => exact (put_eq_frame (.panel .statusBar) viewer rfl).symm
  | conversations | filters | joins => exact View.put_wrapped_eq ..

/-- A popup is drawn as such a part. -/
theorem put_popup_eq (viewer : Viewer) (canvas : Canvas) (popup : Popup) :
    popup.put viewer canvas = (Part.popup popup).put viewer canvas (popup.area canvas.area) := by
  cases popup with
  | help => exact (put_eq_frame (.popup .help) viewer rfl).symm
  | error => exact View.put_wrapped_eq ..

/-- The frame of a part stays in its rectangle. -/
theorem put_frame_in (part : Part) (viewer : Viewer) (rect : Rect) (canvas : Canvas) :
    Canvas.DrawnIn rect.Contains canvas (part.putFrame viewer canvas rect) := by
  cases part with
  | panel panel =>
      cases panel with
      | topBar => exact View.put_cut_in rect _ canvas
      | statusBar => exact (Canvas.paint_in rect .label canvas).trans (View.put_cut_in rect _ _)
      | conversations | filters | joins => exact Canvas.put_border_in rect _ _ canvas
  | popup popup =>
      cases popup with
      | help =>
          refine (View.put_popup_in rect View.helpTitle canvas).trans ?_
          exact (View.put_cut_in rect.interior _ _).mono fun _ _ => rect.interior_within.contains
      | error => exact View.put_popup_in rect View.errorTitle canvas

/-- No glyph of the lines that a part wraps is wider than so many columns and one more, if it fits
in a row. -/
def Fits (viewer : Viewer) (rect : Rect) (spare : Nat) (part : Part) : Prop :=
  ∀ line ∈ part.lines viewer, ∀ glyph ∈ line.glyphs,
    glyph.width ≤ rect.interior.width → glyph.width ≤ spare + 1

/-- It is decided glyph by glyph. -/
instance (viewer : Viewer) (rect : Rect) (spare : Nat) (part : Part) :
    Decidable (part.Fits viewer rect spare) :=
  inferInstanceAs (Decidable (∀ line ∈ part.lines viewer, ∀ glyph ∈ Line.glyphs line, _ → _))

/-- The glyphs of such lines begin in the rectangle or in so many columns to the right of it. -/
theorem Fits.rows_start {spare : Nat} (h : part.Fits viewer rect spare) :
    ∀ row ∈ part.rows viewer rect, StartBefore (rect.right + spare) rect.interior.left row := by
  intro row hmem
  have hrow : 0 < rect.interior.width ∧
      StartBefore (rect.interior.right + (spare + 1)) rect.interior.left row := by
    cases part <;> exact View.wrapped_rows_start h row hmem
  refine hrow.2.mono (Nat.le_refl _) ?_
  have hwidth := hrow.1
  simp only [Rect.interior, Rect.right] at hwidth ⊢
  omega

/-- A part with such lines stays in its rectangle and so many columns to the right of it. -/
theorem Fits.put_in {spare : Nat} (h : part.Fits viewer rect spare) (canvas : Canvas) :
    Canvas.DrawnIn (Rect.Contains { rect with width := rect.width + spare }) canvas
      (part.put viewer canvas rect) := by
  refine ((put_frame_in part viewer rect canvas).mono ?_).trans
    ((Canvas.put_lines_in (fun row hmem => h.rows_start row (List.mem_of_mem_take hmem)) _).mono ?_)
  · intro column row hin
    simp only [Rect.Contains, Rect.right, Rect.bottom] at hin ⊢
    omega
  · intro column row hin
    have hinterior := rect.interior_within
    simp only [Rect.Contains, Rect.Within, Rect.right, Rect.bottom] at hin hinterior ⊢
    omega

/-- A part is drawn somewhere. -/
theorem put_drawn (part : Part) (viewer : Viewer) (rect : Rect) (canvas : Canvas) :
    Canvas.DrawnIn (fun _ _ => True) canvas (part.put viewer canvas rect) :=
  ((put_frame_in part viewer rect canvas).mono fun _ _ _ => trivial).trans
    (Canvas.put_lines_drawn ..)

/-- A part on the screen overruns it if and only if a glyph in its rows begins beyond the edge. -/
theorem put_overrun_iff (hwithin : rect.Within canvas.area) :
    (part.put viewer canvas rect).isOverrun = true ↔
      canvas.isOverrun = true ∨
        ∃ row ∈ part.rows viewer rect, ¬ StartBefore canvas.width rect.interior.left row := by
  have hframe := put_frame_in part viewer rect canvas
  have hbottom : rect.interior.bottom ≤ (part.putFrame viewer canvas rect).height := by
    have hinterior := rect.interior_within
    rw [hframe.height_eq]
    simp only [Rect.Within, Canvas.area, Rect.bottom] at hwithin hinterior ⊢
    omega
  have hrows : (part.rows viewer rect).take rect.interior.height = part.rows viewer rect := by
    cases part <;> exact View.take_wrapped_rows ..
  rw [put, Canvas.put_lines_overrun_iff hbottom, hrows, hframe.width_eq,
    hframe.overrun_eq fun _ _ => hwithin.contains]

end Part

namespace Viewer

/-- The parts of the screen, each with its rectangle, in the order in which they are drawn. -/
def parts (viewer : Viewer) (screen : Rect) : List (Part × Rect) :=
  ((Arrangement.place viewer.arrangement.sideWidth screen).map fun entry =>
      (.panel entry.1, entry.2)) ++
    viewer.popups.map fun popup => (.popup popup, popup.area screen)

/-- Draws parts one after the other. -/
def putParts (viewer : Viewer) (parts : List (Part × Rect)) (canvas : Canvas) : Canvas :=
  parts.foldl (fun canvas entry => entry.1.put viewer canvas entry.2) canvas

variable {viewer : Viewer} {canvas : Canvas} {parts : List (Part × Rect)}

/-- Every part lies within the screen. -/
theorem parts_within (viewer : Viewer) (screen : Rect) :
    ∀ entry ∈ viewer.parts screen, entry.2.Within screen := by
  refine List.forall_mem_append.2 ⟨?_, ?_⟩ <;> rw [List.forall_mem_map]
  · exact Arrangement.place_within viewer.arrangement.sideWidth screen
  · exact fun popup _ => popup.area_within screen

/-- Popups on a screen are drawn in the rectangles that they have there. -/
theorem put_popups_eq (viewer : Viewer) {screen : Rect} (popups : List Popup)
    (harea : canvas.area = screen) :
    popups.foldl (Popup.put viewer) canvas =
      viewer.putParts (popups.map fun popup => (.popup popup, popup.area screen)) canvas := by
  induction popups generalizing canvas with
  | nil => rfl
  | cons popup popups ih =>
      have hput := Part.put_popup_eq viewer canvas popup
      rw [harea] at hput
      rw [List.foldl_cons, hput]
      exact ih ((Part.put_drawn ..).area_eq.trans harea)

/-- The panels of a screen are the first of its parts. -/
theorem draw_panels_eq (viewer : Viewer) (canvas : Canvas) :
    viewer.drawPanels canvas =
      viewer.putParts ((Arrangement.place viewer.arrangement.sideWidth canvas.area).map
        fun entry => (.panel entry.1, entry.2)) canvas := by
  rw [putParts, List.foldl_map]
  simp only [drawPanels, Part.put_panel_eq]

/-- The viewer is drawn part by part. -/
theorem draw_eq_put_parts (viewer : Viewer) (canvas : Canvas) :
    View.draw viewer canvas = viewer.putParts (viewer.parts canvas.area) canvas := by
  have hdrawn : (viewer.drawPanels canvas).area = canvas.area := by
    rw [draw_panels_eq]
    exact (Canvas.DrawnIn.foldl (fun _ _ canvas => Part.put_drawn _ _ _ canvas) canvas).area_eq
  rw [draw_eq_popups, put_popups_eq viewer _ hdrawn, draw_panels_eq, putParts, putParts, putParts,
    parts, List.foldl_append]

/-- Parts on the screen overrun it if and only if a glyph in the rows of one begins beyond the
edge. -/
theorem put_parts_overrun_iff (hwithin : ∀ entry ∈ parts, entry.2.Within canvas.area) :
    (viewer.putParts parts canvas).isOverrun = true ↔
      canvas.isOverrun = true ∨ ∃ entry ∈ parts, ∃ row ∈ entry.1.rows viewer entry.2,
        ¬ StartBefore canvas.width entry.2.interior.left row := by
  induction parts generalizing canvas with
  | nil => simp [putParts]
  | cons entry parts ih =>
      obtain ⟨hentry, hparts⟩ := List.forall_mem_cons.1 hwithin
      have hput := Part.put_drawn entry.1 viewer entry.2 canvas
      have hrest := @ih (entry.1.put viewer canvas entry.2) (by rwa [hput.area_eq])
      rw [hput.width_eq, Part.put_overrun_iff hentry, or_assoc] at hrest
      rw [List.exists_mem_cons_iff]
      exact hrest

/-- On a screen of any size the parts that are drawn, whatever the viewer shows, have their
rectangles within the screen, and the popups have theirs in its middle. The frame of a part stays in
its rectangle, and the text in it does up to the width of its glyphs. So the screen is overrun if
and only if a glyph of a row begins beyond its edge, and it is not as long as no glyph is wider than
the room to the right of its part and one column more. -/
theorem drawn_on_screen (viewer : Viewer) :
    -- where the parts are
    (∀ screen : Rect, (∀ entry ∈ viewer.parts screen, entry.2.Within screen) ∧
      ∀ popup : Popup,
        (popup.area screen).Within screen ∧ (popup.area screen).IsCentredIn screen) ∧
    (∀ canvas, View.draw viewer canvas = viewer.putParts (viewer.parts canvas.area) canvas) ∧
    -- what is drawn for them
    (∀ canvas, ∀ entry ∈ viewer.parts canvas.area,
      Canvas.DrawnIn entry.2.Contains canvas (entry.1.putFrame viewer canvas entry.2) ∧
      (entry.1.putFrame viewer canvas entry.2).isOverrun = canvas.isOverrun ∧
      ∀ spare, entry.1.Fits viewer entry.2 spare →
        Canvas.DrawnIn (Rect.Contains { entry.2 with width := entry.2.width + spare }) canvas
          (entry.1.put viewer canvas entry.2)) ∧
    -- what becomes of the screen
    ∀ width height,
      let screen : Rect := ⟨0, 0, width, height⟩
      ((viewer.render width height).2.isOverrun = true ↔
        ∃ entry ∈ viewer.parts screen, ∃ row ∈ entry.1.rows viewer entry.2,
          ¬ StartBefore width entry.2.interior.left row) ∧
      ((∀ entry ∈ viewer.parts screen, entry.1.Fits viewer entry.2 (width - entry.2.right)) →
        (viewer.render width height).2.isOverrun = false) := by
  refine ⟨fun screen => ⟨viewer.parts_within screen, fun popup =>
    ⟨popup.area_within screen, popup.area_is_centred screen⟩⟩,
    draw_eq_put_parts viewer, fun canvas entry hmem => ?_, fun width height => ?_⟩
  · have hframe := Part.put_frame_in entry.1 viewer entry.2 canvas
    have hwithin := viewer.parts_within canvas.area entry hmem
    have hinside := hframe.overrun_eq fun _ _ => hwithin.contains
    exact ⟨hframe, hinside, fun _ hfits => hfits.put_in canvas⟩
  · intro screen
    have hwithin := viewer.parts_within screen
    have hoverrun : (viewer.render width height).2.isOverrun = true ↔
        ∃ entry ∈ viewer.parts screen, ∃ row ∈ entry.1.rows viewer entry.2,
          ¬ StartBefore width entry.2.interior.left row := by
      show (View.draw viewer (Canvas.blank width height)).isOverrun = true ↔ _
      rw [draw_eq_put_parts]
      refine (put_parts_overrun_iff hwithin).trans ?_
      exact or_iff_right Bool.noConfusion
    refine ⟨hoverrun, fun hfits => Bool.eq_false_iff.2 fun hover => ?_⟩
    obtain ⟨entry, hmem, row, hrow, hbeyond⟩ := hoverrun.1 hover
    refine hbeyond ((hfits entry hmem).rows_start row hrow |>.mono (Nat.le_refl _) ?_)
    have hright : entry.2.right ≤ 0 + width := (hwithin entry hmem).2.1
    omega

/-- The viewer is started, and the details of an error are shown. -/
def errorDetails : List Move :=
  [.start fun _ => .missing, .handle (.key { code := .char 'E' })]

/-- The text of that error with four jamo that are one glyph of eight columns stays on a screen of
the usual size. -/
theorem wide_glyph_on_screen :
    let viewer := ({ key := "\na bbbbbbbᄀᄀᄀᄀc" } : Viewer).steps errorDetails
    let screen : Rect := ⟨0, 0, 80, 24⟩
    (∀ entry ∈ viewer.parts screen, entry.1.Fits viewer entry.2 (80 - entry.2.right)) ∧
      (viewer.render 80 24).2.isOverrun = false := by
  intro viewer screen
  have hfits : ∀ entry ∈ viewer.parts screen,
      entry.1.Fits viewer entry.2 (80 - entry.2.right) := by
    decide +kernel
  exact ⟨hfits, ((drawn_on_screen viewer).2.2.2 80 24).2 hfits⟩

/-- On a screen that has no room for it beside the popup the text overruns the screen, where the
panels do not: the last letter begins beyond the edge. -/
theorem wide_glyph_beyond_screen :
    let viewer := ({ key := "\na bbbbbbbᄀᄀᄀᄀc" } : Viewer).steps errorDetails
    viewer.popups = [.error] ∧ (viewer.drawPanels (Canvas.blank 20 45)).isOverrun = false ∧
      (viewer.render 20 45).2.isOverrun = true := by
  intro viewer
  have hpanels : (viewer.drawPanels (Canvas.blank 20 45)).isOverrun ≠ true := by
    rw [draw_panels_eq]
    refine mt (put_parts_overrun_iff ?_).1 ?_
    · rw [List.forall_mem_map]
      exact Arrangement.place_within viewer.arrangement.sideWidth _
    · decide +kernel
  have hrender : (View.draw viewer (Canvas.blank 20 45)).isOverrun = true := by
    rw [draw_eq_put_parts]
    refine (put_parts_overrun_iff (viewer.parts_within _)).2 ?_
    decide +kernel
  exact ⟨by decide +kernel, Bool.eq_false_iff.2 hpanels, hrender⟩

end Viewer

end CatalogView
