import CatalogView.Screen.Wrap

/-!
# Where the glyphs of a wrapped line begin

A line is broken before a glyph that has no room in it, but the word that the line ends with is
kept together. If its last glyph is wide, the word may be longer than a line by the time it is
moved to the next one, and the glyphs that follow begin beyond the limit. `wrapped_lines_start`
says by how much at most: by one column less than the widest glyph takes up.
-/

namespace CatalogView.Screen

variable {limit wider column earlier : Nat} {front back glyphs : List Glyph}

/-- Glyphs put together are as wide as both parts. -/
@[simp] theorem glyphs_width_append (front back : List Glyph) :
    glyphsWidth (front ++ back) = glyphsWidth front + glyphsWidth back := by
  induction front with
  | nil => exact (Nat.zero_add _).symm
  | cons glyph front ih =>
      show glyph.width + glyphsWidth (front ++ back) = glyph.width + glyphsWidth front + _
      rw [ih, Nat.add_assoc]

/-! ## Glyphs that begin before a limit -/

/-- Side by side from a column on, every glyph that takes up room begins before the limit. -/
def StartBefore (limit column : Nat) : List Glyph → Prop
  | [] => True
  | glyph :: glyphs =>
    (0 < glyph.width → column < limit) ∧ StartBefore limit (column + glyph.width) glyphs

/-- It is decided glyph by glyph. -/
instance decidableStartBefore (limit : Nat) :
    ∀ (column : Nat) (glyphs : List Glyph), Decidable (StartBefore limit column glyphs)
  | _, [] => inferInstanceAs (Decidable True)
  | column, glyph :: glyphs =>
    have := decidableStartBefore limit (column + glyph.width) glyphs
    inferInstanceAs (Decidable (_ ∧ _))

/-- Of two parts the second begins where the first ends. -/
theorem start_before_append :
    StartBefore limit column (front ++ back) ↔
      StartBefore limit column front ∧ StartBefore limit (column + glyphsWidth front) back := by
  induction front generalizing column with
  | nil => simp only [List.nil_append, StartBefore, glyphsWidth, Nat.add_zero, true_and]
  | cons glyph front ih =>
      simp only [List.cons_append, StartBefore, glyphsWidth, ih, ← Nat.add_assoc, and_assoc]

/-- They also do so further to the left, and before a greater limit. -/
theorem StartBefore.mono (h : StartBefore limit column glyphs) (hcolumn : earlier ≤ column)
    (hlimit : limit ≤ wider) : StartBefore wider earlier glyphs := by
  induction glyphs generalizing column earlier with
  | nil => trivial
  | cons glyph glyphs ih =>
      refine ⟨fun hwidth => ?_, ih h.2 (Nat.add_le_add_right hcolumn _)⟩
      have := h.1 hwidth
      omega

/-- Moved to the right they begin before a limit that is moved as far. -/
theorem StartBefore.shift (h : StartBefore limit column glyphs) (distance : Nat) :
    StartBefore (distance + limit) (distance + column) glyphs := by
  induction glyphs generalizing column with
  | nil => trivial
  | cons glyph glyphs ih =>
      refine ⟨fun hwidth => Nat.add_lt_add_left (h.1 hwidth) _, ?_⟩
      rw [Nat.add_assoc]
      exact ih h.2

/-- The glyphs of a line that is cut off begin before the limit. -/
theorem cut_start_before (limit used : Nat) (glyphs : List Glyph) :
    StartBefore limit used (cut limit used glyphs) := by
  induction glyphs generalizing used with
  | nil => trivial
  | cons glyph glyphs ih =>
      unfold cut
      split
      · exact ih used
      · split
        · trivial
        · exact ⟨fun hwidth => by omega, ih _⟩

/-! ## Wrapping -/

namespace Wrapping

variable {wrap : Wrap} {widest : Nat} {state : Wrapping} {glyph : Glyph}

/-- The blanks that are dropped are none of those that are left. -/
theorem width_drop_fitting_le (room : Nat) (gap : List Glyph) :
    glyphsWidth (dropFitting room gap) ≤ glyphsWidth gap := by
  induction gap generalizing room with
  | nil => exact Nat.le_refl _
  | cons glyph gap ih =>
      unfold dropFitting
      split
      · exact Nat.le_refl _
      · exact Nat.le_trans (ih _) (Nat.le_add_left ..)

/-- Blanks are all dropped if there is room for all of them. -/
theorem drop_fitting_eq_nil {room : Nat} {gap : List Glyph} (h : glyphsWidth gap ≤ room) :
    dropFitting room gap = [] := by
  induction gap generalizing room with
  | nil => rfl
  | cons glyph gap ih =>
      have hwidth : glyph.width + glyphsWidth gap ≤ room := h
      unfold dropFitting
      rw [if_neg (by omega)]
      exact ih (by omega)

/-- What is left of the blanks begins no further to the right than it did. -/
theorem drop_fitting_start_before {room : Nat} {gap word : List Glyph}
    (h : StartBefore limit column (gap ++ word)) :
    StartBefore limit column (dropFitting room gap ++ word) := by
  induction gap generalizing room with
  | nil => exact h
  | cons glyph gap ih =>
      unfold dropFitting
      split
      · exact h
      · exact ih (h.2.mono (Nat.le_add_right ..) (Nat.le_refl _))

/-- The columns of what is not complete yet. -/
def used (state : Wrapping) : Nat :=
  glyphsWidth state.line + glyphsWidth state.gap + glyphsWidth state.word

/-- What holds between two glyphs, if none of those that fit in a line is wider than so many
columns. -/
structure Sound (wrap : Wrap) (widest : Nat) (state : Wrapping) : Prop where
  complete : ∀ line ∈ state.complete, StartBefore (wrap.limit + widest) 0 line
  waiting : StartBefore (wrap.limit + widest) 0 (state.line ++ state.gap ++ state.word)
  line_lt : glyphsWidth state.line < wrap.limit
  used_lt : state.line ≠ [] → state.used < wrap.limit + widest
  in_word : state.word ≠ [] → state.isInWord = true

/-- There is room for a glyph in a line. -/
theorem Sound.limit_pos (h : state.Sound wrap widest) : 0 < wrap.limit :=
  Nat.zero_lt_of_lt h.line_lt

/-- What holds when a glyph is about to be appended: besides, it begins before the bound, and if it
is a blank no word waits. -/
structure Ready (wrap : Wrap) (widest : Nat) (glyph : Glyph) (state : Wrapping) : Prop
    extends Sound wrap widest state where
  start : 0 < glyph.width → state.used < wrap.limit + widest
  after : state.line ≠ [] → state.used + glyph.width < wrap.limit + widest
  no_word : glyph.isBreak = true → state.word = []

/-- A glyph that can be appended leaves all as it should be. -/
theorem Ready.append (h : state.Ready wrap widest glyph) :
    (state.append glyph).Sound wrap widest := by
  have hwaiting : StartBefore (wrap.limit + widest) 0
      (state.line ++ state.gap ++ state.word ++ [glyph]) := by
    refine start_before_append.2 ⟨h.waiting, fun hwidth => ?_, trivial⟩
    have hstart := h.start hwidth
    simp only [used] at hstart
    simp only [glyphs_width_append]
    omega
  unfold Wrapping.append
  split
  case isTrue hbreak =>
    have hword := h.no_word hbreak
    rw [hword, List.append_nil, List.append_assoc] at hwaiting
    refine ⟨h.complete, ?_, h.line_lt, fun hline => ?_, fun hne => absurd hword hne⟩
    · show StartBefore _ 0 (state.line ++ (state.gap ++ [glyph]) ++ state.word)
      rwa [hword, List.append_nil]
    · have := h.after hline
      simp only [used, glyphs_width_append, glyphsWidth] at this ⊢
      omega
  case isFalse =>
    refine ⟨h.complete, ?_, h.line_lt, fun hline => ?_, fun _ => rfl⟩
    · show StartBefore _ 0 (state.line ++ state.gap ++ (state.word ++ [glyph]))
      rwa [← List.append_assoc]
    · have := h.after hline
      simp only [used, glyphs_width_append, glyphsWidth] at this ⊢
      omega

/-- The line with the blanks and the word after it begins no further to the right if the blanks are
dropped. -/
theorem Sound.line_start_before (h : state.Sound wrap widest) :
    StartBefore (wrap.limit + widest) 0 (state.lineAndGap wrap ++ state.word) := by
  unfold lineAndGap
  split
  · have hword := (start_before_append.1 h.waiting).2
    exact hword.mono (Nat.zero_le _) (Nat.le_refl _)
  · exact h.waiting

/-- Once everything that waited is in the line, a glyph can be appended, to the next line if this
one is full. -/
theorem Sound.step_placed (h : state.Sound wrap widest) (hwidest : glyph.width ≤ widest) :
    let placed := state.place wrap
    (placed.isFull wrap glyph = true → (placed.breakLine wrap).Ready wrap widest glyph) ∧
      (placed.isFull wrap glyph = false → placed.Ready wrap widest glyph) := by
  intro placed
  have hline : StartBefore (wrap.limit + widest) 0 placed.line := h.line_start_before
  have hused : placed.used = glyphsWidth placed.line := rfl
  constructor
  · intro _
    have hempty : (placed.breakLine wrap).used = 0 := rfl
    refine ⟨⟨?_, trivial, h.limit_pos, fun hne => absurd rfl hne, fun hne => absurd rfl hne⟩,
      fun _ => by omega, fun hne => absurd rfl hne, fun _ => rfl⟩
    exact List.forall_mem_cons.2 ⟨hline, h.complete⟩
  · intro hfull
    have hlt : glyphsWidth placed.line < wrap.limit := by
      simp only [isFull, Bool.or_eq_false_iff, decide_eq_false_iff_not] at hfull
      omega
    refine ⟨⟨h.complete, ?_, hlt, fun _ => by omega, fun hne => absurd rfl hne⟩,
      fun _ => by omega, fun _ => by omega, fun _ => rfl⟩
    show StartBefore _ 0 (placed.line ++ [] ++ [])
    rwa [List.append_nil, List.append_nil]

/-- As long as nothing is due, what is left of the blanks and the word after them are shorter than
the bound when the line is broken before a glyph. -/
theorem Sound.left_lt (h : state.Sound wrap widest) (hdue : state.isDue wrap glyph = false)
    (hfull : state.isFull wrap glyph = true) :
    (state.breakLine wrap).used < wrap.limit + widest := by
  have hle := width_drop_fitting_le (wrap.limit - glyphsWidth state.line) state.gap
  have hline_lt := h.line_lt
  show 0 + glyphsWidth (dropFitting (wrap.limit - glyphsWidth state.line) state.gap) +
    glyphsWidth state.word < _
  by_cases hline : state.line = []
  · simp only [isFull, Bool.or_eq_true, Bool.and_eq_true, decide_eq_true_eq] at hfull
    simp only [isDue, Bool.or_eq_false_iff, hline, List.isEmpty_nil, Bool.true_and] at hdue
    obtain ⟨-, hdue⟩ := hdue
    split at hdue
    · -- the word alone would fit, and the blanks are all dropped
      simp only [Bool.or_eq_false_iff, decide_eq_false_iff_not] at hdue
      rw [drop_fitting_eq_nil (by rw [hline]; exact Nat.le_of_lt (by show _ < wrap.limit; omega))]
      show 0 + 0 + glyphsWidth state.word < _
      omega
    · simp only [decide_eq_false_iff_not] at hdue
      omega
  · have hused := h.used_lt hline
    simp only [used] at hused
    omega

/-- As long as nothing is due, a glyph can be appended too, to the next line if this one is full. -/
theorem Sound.step_waiting (h : state.Sound wrap widest) (hwidest : glyph.width ≤ widest)
    (hdue : state.isDue wrap glyph = false) :
    (state.isFull wrap glyph = true → (state.breakLine wrap).Ready wrap widest glyph) ∧
      (state.isFull wrap glyph = false → state.Ready wrap widest glyph) := by
  -- a blank after a word makes the word due
  have hno_word : glyph.isBreak = true → state.word = [] := by
    intro hbreak
    cases hword : state.word with
    | nil => rfl
    | cons first rest =>
        have hin := h.in_word (by rw [hword]; exact List.cons_ne_nil _ _)
        simp [isDue, hin, hbreak] at hdue
  have hwaiting := h.waiting
  rw [List.append_assoc] at hwaiting
  obtain ⟨hline, hrest⟩ := start_before_append.1 hwaiting
  constructor
  · intro hfull
    refine ⟨⟨List.forall_mem_cons.2 ⟨hline, h.complete⟩, ?_, h.limit_pos, fun hne => absurd rfl hne,
      h.in_word⟩, fun _ => h.left_lt hdue hfull, fun hne => absurd rfl hne, hno_word⟩
    exact drop_fitting_start_before (hrest.mono (Nat.zero_le _) (Nat.le_refl _))
  · intro hfull
    have hstart : 0 < glyph.width → state.used < wrap.limit := by
      simp only [isFull, Bool.or_eq_false_iff, decide_eq_false_iff_not,
        Bool.and_eq_false_iff] at hfull
      simp only [used]
      omega
    refine ⟨h, fun hwidth => by have := hstart hwidth; omega, fun hne => ?_, hno_word⟩
    have hused := h.used_lt hne
    by_cases hwidth : 0 < glyph.width
    · have := hstart hwidth
      omega
    · omega

/-- Every glyph leaves all as it should be. -/
theorem Sound.step (h : state.Sound wrap widest)
    (hwidest : glyph.width ≤ wrap.limit → glyph.width ≤ widest) :
    (Wrapping.step wrap state glyph).Sound wrap widest := by
  unfold Wrapping.step
  split
  case isTrue => exact h
  case isFalse hfits =>
    have hwidest := hwidest (Nat.le_of_not_lt hfits)
    have hplaced : ∀ placed : Wrapping,
        (placed.isFull wrap glyph = true → (placed.breakLine wrap).Ready wrap widest glyph) ∧
          (placed.isFull wrap glyph = false → placed.Ready wrap widest glyph) →
        (if placed.isFull wrap glyph then
          if glyph.isBreak && (placed.breakLine wrap).gap.isEmpty then placed.breakLine wrap
          else (placed.breakLine wrap).append glyph
        else placed.append glyph).Sound wrap widest := by
      intro placed ⟨hbroken, hkept⟩
      split
      case isTrue hfull =>
        split
        · exact (hbroken hfull).toSound
        · exact (hbroken hfull).append
      case isFalse hfull => exact (hkept (Bool.eq_false_iff.2 hfull)).append
    cases hdue : state.isDue wrap glyph with
    | true => exact hplaced _ (h.step_placed hwidest)
    | false => exact hplaced _ (h.step_waiting hwidest hdue)

/-- So do all glyphs one after the other. -/
theorem Sound.foldl {glyphs : List Glyph} (h : state.Sound wrap widest)
    (hwidest : ∀ glyph ∈ glyphs, glyph.width ≤ wrap.limit → glyph.width ≤ widest) :
    (glyphs.foldl (Wrapping.step wrap) state).Sound wrap widest := by
  induction glyphs generalizing state with
  | nil => exact h
  | cons glyph glyphs ih =>
      obtain ⟨hglyph, hglyphs⟩ := List.forall_mem_cons.1 hwidest
      exact ih (h.step hglyph) hglyphs

/-- The glyphs of all lines begin before the bound in the end. -/
theorem Sound.finish (h : state.Sound wrap widest) :
    ∀ line ∈ state.finish wrap, StartBefore (wrap.limit + widest) 0 line := by
  have hlast := h.line_start_before
  unfold Wrapping.finish
  extract_lets complete last all
  have hcomplete : ∀ line ∈ complete, StartBefore (wrap.limit + widest) 0 line := by
    simp only [complete]
    split
    · exact List.forall_mem_cons.2 ⟨trivial, h.complete⟩
    · exact h.complete
  have hall : ∀ line ∈ all, StartBefore (wrap.limit + widest) 0 line := by
    simp only [all]
    split
    · exact hcomplete
    · exact List.forall_mem_cons.2 ⟨hlast, hcomplete⟩
  split
  · exact List.forall_mem_singleton.2 trivial
  · exact fun line hmem => hall line (List.mem_reverse.1 hmem)

end Wrapping

/-- However a line is wrapped, no glyph begins further beyond the limit than the widest of those
that fit in a line reaches. -/
theorem wrapped_lines_start {wrap : Wrap} {widest : Nat} (hlimit : 0 < wrap.limit)
    (hwidest : ∀ glyph ∈ glyphs, glyph.width ≤ wrap.limit → glyph.width ≤ widest) :
    ∀ line ∈ wrap.lines glyphs, StartBefore (wrap.limit + widest) 0 line := by
  have hnew : ({} : Wrapping).Sound wrap widest :=
    ⟨fun _ hmem => absurd hmem List.not_mem_nil, trivial, hlimit, fun hne => absurd rfl hne,
      fun hne => absurd rfl hne⟩
  exact (hnew.foldl hwidest).finish

end CatalogView.Screen
