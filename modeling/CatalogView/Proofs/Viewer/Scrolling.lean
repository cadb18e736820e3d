import CatalogView.Proofs.Screen.Tiling
import CatalogView.Proofs.Viewer.Drawing
import CatalogView.Proofs.Viewer.Modal

/-!
# Scrolling

Every move of the viewer scrolls one panel or none. `target?` says which panel that is and how far
it goes, by the keys and by what the wheel of the mouse is over, and `steps_scrolls` that the line a
panel is scrolled to after any run comes from what was aimed at that panel alone. On the way each
line stays within its bounds. Moving on in one direction there stops at the bound, however the way
is divided (`clamp_add_clamp`), so a page is as good as its lines. `scrolling_saturates` puts this
together for every state that a viewer can be in.
-/

namespace CatalogView

open CatalogView.Screen

/-! ## Lines within bounds -/

/-- What is done to the line that a panel is scrolled to. -/
inductive Shift where
  /-- It moves on by so many lines, or back if the number is negative. -/
  | move (lines : Int)
  /-- It goes back to the first line. -/
  | toStart
  deriving DecidableEq, Repr

/-- The line after a shift. -/
def Shift.apply (line : Nat) : Shift → Nat
  | .move lines => Scrolls.clamp (line + lines)
  | .toStart => 0

namespace Scrolls

/-- No line goes beyond the last one. -/
theorem clamp_le (lines : Int) : clamp lines ≤ 65535 := by
  simp only [clamp, max]
  omega

/-- A line within the bounds is left as it is. -/
theorem clamp_of_le {line : Nat} (h : line ≤ 65535) : clamp line = line := by
  simp only [clamp, max]
  omega

/-- A way that leads in one direction can be gone in two parts. -/
theorem clamp_add_clamp {line : Nat} {first second : Int} (hline : line ≤ 65535)
    (hdirection : 0 ≤ first ∧ 0 ≤ second ∨ first ≤ 0 ∧ second ≤ 0) :
    clamp (clamp (line + first) + second) = clamp (line + (first + second)) := by
  simp only [clamp, max]
  omega

/-- A shift leads to a line within the bounds. -/
theorem apply_le (line : Nat) (shift : Shift) : shift.apply line ≤ 65535 := by
  cases shift with
  | move lines => exact clamp_le _
  | toStart => exact Nat.zero_le _

/-- Where a panel is scrolled to last is what counts. -/
theorem set_set (scrolls : Scrolls) (first second : Nat) (focus : Focus) :
    (scrolls.set first focus).set second focus = scrolls.set second focus := by
  cases focus <;> rfl

/-- A panel that is scrolled to where it is stays there. -/
theorem set_get (scrolls : Scrolls) (focus : Focus) :
    scrolls.set (scrolls.get focus) focus = scrolls := by
  cases focus <;> rfl

/-- Two moves of a panel in one direction are as good as one. -/
theorem move_move {scrolls : Scrolls} {focus : Focus} {first second : Int}
    (hline : scrolls.get focus ≤ 65535)
    (hdirection : 0 ≤ first ∧ 0 ≤ second ∨ first ≤ 0 ∧ second ≤ 0) :
    (scrolls.move focus first).move focus second = scrolls.move focus (first + second) := by
  unfold move
  rw [get_set, set_set, clamp_add_clamp hline hdirection]

/-- A move by no lines changes nothing. -/
theorem move_zero {scrolls : Scrolls} {focus : Focus} (hline : scrolls.get focus ≤ 65535) :
    scrolls.move focus 0 = scrolls := by
  unfold move
  rw [Int.add_zero, clamp_of_le hline, set_get]

end Scrolls

namespace Viewer

variable {viewer : Viewer}

/-! ## What a move is aimed at -/

/-- The panel that a key scrolls while no popup is shown, and how. Of the panels that can have the
focus it is the one that has it, but for the key that asks for the conversations. -/
def keyTarget? (focus : Focus) : KeyCode → Option (Focus × Shift)
  | .up => some (focus, .move (-1))
  | .down => some (focus, .move 1)
  | .pageUp => some (focus, .move (-10))
  | .pageDown => some (focus, .move 10)
  | .char 'r' => some (.conversations, .toStart)
  | _ => none

/-- How the wheel of the mouse scrolls. -/
def wheelShift? : MouseAction → Option Shift
  | .scrollUp => some (.move (-3))
  | .scrollDown => some (.move 3)
  | _ => none

/-- The panel at which the mouse points, if it can be scrolled. -/
def pointed? (viewer : Viewer) (event : MouseEvent) : Option Focus :=
  (viewer.arrangement.panelAt? event.column event.row).bind Panel.focus?

/-- The panel that a move scrolls, and how. A start asks for the conversations as the key does. -/
def target? (viewer : Viewer) : Move → Option (Focus × Shift)
  | .start _ => some (.conversations, .toStart)
  | .handle (.key event) => if viewer.hasPopup then none else keyTarget? viewer.focus event.code
  | .handle (.mouse event) => do return (← viewer.pointed? event, ← wheelShift? event.action)
  | _ => none

/-- What a move is to do to one of the panels. -/
def shift? (viewer : Viewer) (focus : Focus) (move : Move) : Option Shift :=
  (viewer.target? move).bind fun (target, shift) => if target = focus then some shift else none

/-- What the moves of a run are to do to one of the panels, in their order. -/
def shifts (viewer : Viewer) (focus : Focus) : List Move → List Shift
  | [] => []
  | move :: moves => (viewer.shift? focus move).toList ++ (viewer.step move).shifts focus moves

/-- The scrolls after a panel was scrolled, if one was. -/
def scrolled (scrolls : Scrolls) : Option (Focus × Shift) → Scrolls
  | none => scrolls
  | some (focus, shift) => scrolls.set (shift.apply (scrolls.get focus)) focus

/-- The panel that a command scrolls, and how. -/
def commandTarget? (focus : Focus) : Command → Option (Focus × Shift)
  | .scroll lines => some (focus, .move lines)
  | .reload => some (.conversations, .toStart)
  | _ => none

/-- A command scrolls what it is to scroll. -/
theorem run_scrolls (viewer : Viewer) (command : Command) :
    (viewer.run command).scrolls =
      scrolled viewer.scrolls (commandTarget? viewer.focus command) := by
  cases command with
  | openError =>
      cases herror : viewer.error?.isSome <;> simp [run, herror, commandTarget?, scrolled]
  | nothing | quit | toggleHelp | closeHelp | closeError | reload | focusNext | focusPrevious
  | scroll | narrow => rfl

/-- Among the panels a key gives the command for what it is to scroll. -/
theorem in_panels_target (focus : Focus) (code : KeyCode) :
    commandTarget? focus (.inPanels code) = keyTarget? focus code := by
  unfold Command.inPanels
  split
  case h_12 =>
    -- a key without a command is none of those that scroll
    unfold keyTarget?
    split
    case h_6 => rfl
    all_goals contradiction
  all_goals rfl

/-- While no popup is shown a key scrolls what it is to scroll. -/
theorem command_target (hclosed : viewer.hasPopup = false) (event : KeyEvent) :
    commandTarget? viewer.focus (viewer.command event) = keyTarget? viewer.focus event.code := by
  obtain ⟨hhelp, herror⟩ := Bool.or_eq_false_iff.1 hclosed
  unfold command Command.ofKey
  rw [hhelp, herror]
  split
  case isTrue hquit =>
    rw [hquit.1]
    rfl
  case isFalse =>
    split
    case isTrue htoggle =>
      rw [htoggle]
      rfl
    case isFalse => exact in_panels_target viewer.focus event.code

/-- A command over a popup scrolls nothing. -/
theorem modal_target {command : Command} (h : command.IsModal) (focus : Focus) :
    commandTarget? focus command = none := by
  cases h <;> rfl

/-- Every move scrolls what it is aimed at, and nothing else. -/
theorem step_scrolls (viewer : Viewer) (move : Move) :
    (viewer.step move).scrolls = scrolled viewer.scrolls (viewer.target? move) := by
  cases move with
  | start read =>
      obtain ⟨_, _, _, _, hstart⟩ := start_eq viewer read
      show (viewer.start read).scrolls = _
      rw [hstart]
      rfl
  | handle event =>
      cases event with
      | key event =>
          show (viewer.run (viewer.command event)).scrolls =
            scrolled viewer.scrolls (if viewer.hasPopup then _ else _)
          rw [run_scrolls]
          cases hpopup : viewer.hasPopup with
          | true =>
              rw [modal_target (command_over_popup hpopup event).1]
              rfl
          | false =>
              rw [command_target hpopup event]
              rfl
      | mouse event =>
          show (viewer.point event).scrolls = scrolled viewer.scrolls
            ((viewer.pointed? event).bind fun focus =>
              (wheelShift? event.action).bind fun shift => some (focus, shift))
          unfold point pointed?
          cases (viewer.arrangement.panelAt? event.column event.row).bind Panel.focus? with
          | none => rfl
          | some focus =>
              cases event.action with
              | press button => cases button <;> rfl
              | release | drag | move | scrollUp | scrollDown | scrollLeft | scrollRight => rfl
      | focusGained | focusLost | paste | resize => rfl
  | refresh =>
      obtain ⟨_, _, _, hrefresh⟩ := refresh_eq viewer
      show viewer.refresh.scrolls = _
      rw [hrefresh]
      rfl
  | render | work => rfl

/-- A panel that a move is not aimed at stays where it is. -/
theorem step_scrolls_frame (viewer : Viewer) (move : Move) :
    ∃ focus, ∀ other, other ≠ focus →
      (viewer.step move).scrolls.get other = viewer.scrolls.get other := by
  rw [step_scrolls]
  cases viewer.target? move with
  | none => exact ⟨.conversations, fun _ _ => rfl⟩
  | some target => exact ⟨target.1, fun _ hne => Scrolls.get_set_of_ne _ _ hne⟩

/-- What a move does to one panel is what it is to do to that panel. -/
theorem step_scrolls_get (viewer : Viewer) (focus : Focus) (move : Move) :
    (viewer.step move).scrolls.get focus =
      (viewer.shift? focus move).toList.foldl Shift.apply (viewer.scrolls.get focus) := by
  rw [step_scrolls, shift?]
  cases viewer.target? move with
  | none => rfl
  | some target =>
      obtain ⟨other, shift⟩ := target
      by_cases hother : other = focus
      · subst hother
        simp [scrolled]
      · simp [scrolled, hother, Scrolls.get_set_of_ne _ _ (Ne.symm hother)]

/-- The line that a panel is scrolled to after a run comes from what was done to that panel. -/
theorem steps_scrolls (viewer : Viewer) (focus : Focus) (moves : List Move) :
    (viewer.steps moves).scrolls.get focus =
      (viewer.shifts focus moves).foldl Shift.apply (viewer.scrolls.get focus) := by
  induction moves generalizing viewer with
  | nil => rfl
  | cons move moves ih =>
      show ((viewer.step move).steps moves).scrolls.get focus = _
      rw [ih, step_scrolls_get, shifts, List.foldl_append]

/-! ## Pages and notches -/

/-- Keys that move the panel with the focus on in one direction move it on by all their lines
together. -/
theorem steps_of_scroll {lines : Int} {events : List KeyEvent}
    (hline : viewer.scrolls.get viewer.focus ≤ 65535)
    (hevents : ∀ event ∈ events, viewer.command event = .scroll lines) :
    viewer.steps (keyMoves events) =
      { viewer with scrolls := viewer.scrolls.move viewer.focus (events.length * lines) } := by
  induction events generalizing viewer with
  | nil =>
      have hzero : (([] : List KeyEvent).length : Int) * lines = 0 := Int.zero_mul lines
      rw [hzero, Scrolls.move_zero hline]
      rfl
  | cons event events ih =>
      obtain ⟨hevent, hevents⟩ := List.forall_mem_cons.1 hevents
      have hsum : lines + events.length * lines = (event :: events).length * lines := by
        rw [List.length_cons, Int.natCast_succ, Int.add_mul, Int.one_mul, Int.add_comm]
      have hdirection : 0 ≤ lines ∧ 0 ≤ (events.length : Int) * lines ∨
          lines ≤ 0 ∧ (events.length : Int) * lines ≤ 0 := by
        rcases Int.le_total 0 lines with h | h
        · exact .inl ⟨h, Int.mul_nonneg (Int.natCast_nonneg _) h⟩
        · exact .inr ⟨h, Int.mul_nonpos_of_nonneg_of_nonpos (Int.natCast_nonneg _) h⟩
      have hnext : (viewer.handle (.key event)).1 =
          { viewer with scrolls := viewer.scrolls.move viewer.focus lines } := by
        show viewer.run (viewer.command event) = _
        rw [hevent]
        rfl
      show (viewer.handle (.key event)).1.steps (keyMoves events) = _
      rw [hnext, ih]
      · rw [Scrolls.move_move hline hdirection, hsum]
      · exact (Scrolls.get_set ..).symm ▸ Scrolls.clamp_le _
      · exact hevents

/-- While no popup is shown a key that scrolls among the panels does so. -/
theorem command_eq_scroll (hclosed : viewer.hasPopup = false) {event : KeyEvent} {lines : Int}
    (hkey : Command.inPanels event.code = .scroll lines) :
    viewer.command event = .scroll lines := by
  obtain ⟨hhelp, herror⟩ := Bool.or_eq_false_iff.1 hclosed
  have hquit : event.code ≠ .char 'q' := by
    intro hcode
    rw [hcode] at hkey
    cases hkey
  have htoggle : event.code ≠ .char '?' := by
    intro hcode
    rw [hcode] at hkey
    cases hkey
  simp [command, Command.ofKey, hquit, htoggle, hhelp, herror, hkey]

/-- A page is as good as its lines. -/
theorem steps_of_lines {line : KeyCode} {lines : Int} {events : List KeyEvent} {page : KeyEvent}
    (hclosed : viewer.hasPopup = false) (hline : viewer.scrolls.get viewer.focus ≤ 65535)
    (hlineKey : Command.inPanels line = .scroll lines)
    (hpageKey : Command.inPanels page.code = .scroll (events.length * lines))
    (hevents : ∀ event ∈ events, event.code = line) :
    viewer.steps (keyMoves events) = (viewer.handle (.key page)).1 := by
  have hcommands : ∀ event ∈ events, viewer.command event = .scroll lines := by
    intro event hevent
    exact command_eq_scroll hclosed ((hevents event hevent).symm ▸ hlineKey)
  rw [steps_of_scroll hline hcommands]
  show _ = viewer.run (viewer.command page)
  rw [command_eq_scroll hclosed hpageKey]
  rfl

/-- A notch of the wheel is as good as three lines. -/
theorem point_of_wheel {event : MouseEvent} {focus : Focus} {line : Int}
    (hline : viewer.scrolls.get focus ≤ 65535) (hpointed : viewer.pointed? event = some focus)
    (hwheel : wheelShift? event.action = some (.move (line + line + line))) :
    viewer.point event = { viewer with
      scrolls := ((viewer.scrolls.move focus line).move focus line).move focus line } := by
  have hdirection : 0 ≤ line ∨ line ≤ 0 := Int.le_total 0 line
  have hmoved : (viewer.scrolls.move focus line).get focus ≤ 65535 :=
    (Scrolls.get_set ..).symm ▸ Scrolls.clamp_le _
  rw [Scrolls.move_move hmoved (by omega), Scrolls.move_move hline (by omega)]
  unfold pointed? at hpointed
  unfold point
  rw [hpointed]
  cases haction : event.action with
  | scrollUp =>
      rw [haction] at hwheel
      have hnotch : -notch = line + (line + line) := by
        have hsum := Shift.move.inj (Option.some.inj hwheel)
        simp only [notch]
        omega
      rw [← hnotch]
  | scrollDown =>
      rw [haction] at hwheel
      have hnotch : notch = line + (line + line) := by
        have hsum := Shift.move.inj (Option.some.inj hwheel)
        simp only [notch]
        omega
      rw [← hnotch]
  | press | release | drag | move | scrollLeft | scrollRight =>
      rw [haction] at hwheel
      cases hwheel

/-! ## The mouse -/

/-- The wheel leaves the focus where it is. -/
theorem point_focus {event : MouseEvent} (h : event.action ≠ .press .left) :
    (viewer.point event).focus = viewer.focus := by
  unfold point
  split
  next => rfl
  next =>
    split
    next hpress => exact absurd hpress h
    all_goals rfl

/-- The mouse does nothing where no panel is that can have the focus. -/
theorem point_of_none {event : MouseEvent} (h : viewer.pointed? event = none) :
    viewer.point event = viewer := by
  unfold pointed? at h
  unfold point
  rw [h]

/-! ## The states of a viewer -/

/-- The area that a move draws on, if it does. -/
def Move.area? : Move → Option Rect
  | .render width height => some (Canvas.blank width height).area
  | _ => none

/-- The area that was drawn on last, where `drawn?` is the one before the run. -/
def lastArea? (drawn? : Option Rect) (moves : List Move) : Option Rect :=
  moves.foldl (fun last? move => move.area?.or last?) drawn?

/-- The panels are where a drawing on an area placed them, or nowhere without one. -/
def ArePlaced (panels : List (Panel × Rect)) : Option Rect → Prop
  | none => panels = []
  | some area => ∃ sideWidth, panels = Arrangement.place sideWidth area

/-- A state that a viewer can be in, if it was last drawn on an area or not drawn yet: no panel is
scrolled beyond the last line, and the mouse finds the panels of that drawing. -/
structure IsPossible (viewer : Viewer) (drawn? : Option Rect) : Prop where
  scrolls : ∀ focus, viewer.scrolls.get focus ≤ 65535
  placed : ArePlaced viewer.arrangement.panels drawn?

/-- A new viewer is in such a state. -/
theorem new_possible (settings : Settings) (key : String) :
    ({ settings, key } : Viewer).IsPossible none where
  scrolls focus := by cases focus <;> exact Nat.zero_le _
  placed := rfl

variable {drawn? : Option Rect}

/-- Every move leads from one such state to another. -/
theorem IsPossible.step (h : viewer.IsPossible drawn?) (move : Move) :
    (viewer.step move).IsPossible (move.area?.or drawn?) := by
  constructor
  · intro focus
    rw [step_scrolls_get]
    cases viewer.shift? focus move with
    | none => exact h.scrolls focus
    | some shift => exact Scrolls.apply_le _ shift
  · rw [step_panels]
    cases move with
    | render width height => exact ⟨viewer.arrangement.sideWidth, rfl⟩
    | start | handle | refresh | work => exact h.placed

/-- Every run does. -/
theorem IsPossible.steps (h : viewer.IsPossible drawn?) (moves : List Move) :
    (viewer.steps moves).IsPossible (lastArea? drawn? moves) := by
  induction moves generalizing viewer drawn? with
  | nil => exact h
  | cons move moves ih => exact ih (h.step move)

/-- The mouse points at nothing outside the area that was drawn on last. -/
theorem IsPossible.panel_at_outside (h : viewer.IsPossible drawn?) {event : MouseEvent}
    (houtside : ∀ area, drawn? = some area → ¬ area.Contains event.column event.row) :
    viewer.arrangement.panelAt? event.column event.row = none := by
  have hplaced := h.placed
  unfold Arrangement.panelAt?
  cases drawn? with
  | none =>
      rw [show viewer.arrangement.panels = [] from hplaced]
      rfl
  | some area =>
      obtain ⟨sideWidth, hpanels⟩ := hplaced
      have hnone := mt (Arrangement.panel_at_is_some_iff { sideWidth } area _ _).1
        (houtside area rfl)
      rw [hpanels]
      exact Option.not_isSome_iff_eq_none.1 hnone

/-- The mouse points at nothing that can be scrolled over the bars and outside the area that was
drawn on last. -/
theorem IsPossible.pointed_eq_none (h : viewer.IsPossible drawn?) {event : MouseEvent}
    (hplace : viewer.arrangement.panelAt? event.column event.row = some .topBar ∨
      viewer.arrangement.panelAt? event.column event.row = some .statusBar ∨
      ∀ area, drawn? = some area → ¬ area.Contains event.column event.row) :
    viewer.pointed? event = none := by
  unfold pointed?
  rcases hplace with htop | hstatus | houtside
  · rw [htop]
    rfl
  · rw [hstatus]
    rfl
  · rw [h.panel_at_outside houtside]
    rfl

/-- No move is aimed at a panel with more than the lines of a page. -/
theorem target_lines {move : Move} {focus : Focus} {lines : Int}
    (h : viewer.target? move = some (focus, .move lines)) : -10 ≤ lines ∧ lines ≤ 10 := by
  cases move with
  | start | refresh | render | work => cases h
  | handle event =>
      cases event with
      | key event =>
          have hkey : (if viewer.hasPopup then none else keyTarget? viewer.focus event.code) =
              some (focus, .move lines) := h
          split at hkey
          · cases hkey
          · unfold keyTarget? at hkey
            split at hkey <;> cases hkey <;> omega
      | mouse event =>
          have hmouse : ((viewer.pointed? event).bind fun focus =>
              (wheelShift? event.action).bind fun shift => some (focus, shift)) =
                some (focus, .move lines) := h
          simp only [Option.bind_eq_some_iff, Option.some.injEq, Prod.mk.injEq] at hmouse
          obtain ⟨-, -, shift, hwheel, -, rfl⟩ := hmouse
          unfold wheelShift? at hwheel
          split at hwheel <;> cases hwheel <;> omega
      | focusGained | focusLost | paste | resize => cases h

/-- Whatever happens, a panel is scrolled by what is aimed at it and by nothing else, line by line
within the bounds, and no other panel with it. So where no popup is shown a page of ten lines is as
good as ten lines, and a notch of the wheel as good as three. The wheel leaves the focus alone, and
over the bars or beside the screen the mouse does nothing. Before a line is brought back within its
bounds it fits a signed word of 32 bits, and after that an unsigned one of 16. -/
theorem scrolling_saturates (viewer : Viewer) (drawn? : Option Rect)
    (hpossible : viewer.IsPossible drawn?) :
    -- pages and notches
    (viewer.hasPopup = false → ∀ (page : KeyEvent) (events : List KeyEvent), events.length = 10 →
      (page.code = .pageDown → (∀ event ∈ events, event.code = .down) →
        viewer.steps (keyMoves events) = (viewer.handle (.key page)).1) ∧
      (page.code = .pageUp → (∀ event ∈ events, event.code = .up) →
        viewer.steps (keyMoves events) = (viewer.handle (.key page)).1)) ∧
    (∀ event focus, viewer.pointed? event = some focus →
      (event.action = .scrollDown → (viewer.handle (.mouse event)).1 = { viewer with
        scrolls := ((viewer.scrolls.move focus 1).move focus 1).move focus 1 }) ∧
      (event.action = .scrollUp → (viewer.handle (.mouse event)).1 = { viewer with
        scrolls := ((viewer.scrolls.move focus (-1)).move focus (-1)).move focus (-1) })) ∧
    -- what a run does
    (∀ moves focus, (viewer.steps moves).scrolls.get focus =
      (viewer.shifts focus moves).foldl Shift.apply (viewer.scrolls.get focus)) ∧
    -- what a move leaves alone
    (∀ move, ∃ focus, ∀ other, other ≠ focus →
      (viewer.step move).scrolls.get other = viewer.scrolls.get other) ∧
    (∀ event, event.action ≠ .press .left →
      (viewer.handle (.mouse event)).1.focus = viewer.focus) ∧
    (∀ event, viewer.arrangement.panelAt? event.column event.row = some .topBar ∨
        viewer.arrangement.panelAt? event.column event.row = some .statusBar ∨
        (∀ area, drawn? = some area → ¬ area.Contains event.column event.row) →
      viewer.handle (.mouse event) = (viewer, false)) ∧
    -- the numbers on the way
    (∀ move focus lines, viewer.target? move = some (focus, .move lines) →
      let line := viewer.scrolls.get focus + lines
      Int32.minValue.toInt ≤ line ∧ line ≤ Int32.maxValue.toInt ∧
        Scrolls.clamp line < UInt16.size) ∧
    -- where it ends
    (∀ moves, (viewer.steps moves).IsPossible (lastArea? drawn? moves)) := by
  have hline := hpossible.scrolls
  have hdown : Command.inPanels .down = .scroll 1 := rfl
  have hup : Command.inPanels .up = .scroll (-1) := rfl
  refine ⟨fun hclosed page events hlength => ⟨fun hpage hevents => ?_, fun hpage hevents => ?_⟩,
    fun event focus hpointed => ⟨fun hwheel => ?_, fun hwheel => ?_⟩,
    fun moves focus => steps_scrolls viewer focus moves, step_scrolls_frame viewer,
    fun event => point_focus, fun event hplace => ?_, fun move focus lines htarget => ?_,
    hpossible.steps⟩
  · refine steps_of_lines hclosed (hline _) hdown ?_ hevents
    rw [hpage, hlength]
    rfl
  · refine steps_of_lines hclosed (hline _) hup ?_ hevents
    rw [hpage, hlength]
    rfl
  · exact point_of_wheel (hline focus) hpointed (by rw [hwheel]; rfl)
  · exact point_of_wheel (hline focus) hpointed (by rw [hwheel]; rfl)
  · show (viewer.point event, false) = (viewer, false)
    rw [point_of_none (hpossible.pointed_eq_none hplace)]
  · intro line
    obtain ⟨hleast, hmost⟩ := target_lines htarget
    have hbound := hline focus
    have hclamped := Scrolls.clamp_le line
    have hlow : Int32.minValue.toInt = -2147483648 := by decide
    have hhigh : Int32.maxValue.toInt = 2147483647 := by decide
    have hsize : UInt16.size = 65536 := rfl
    omega

/-- Ten keys, the last of which go no further, and two notches at the other end. Before it is drawn
for the first time the mouse does nothing to a viewer. -/
theorem scrolling_saturates_at_bounds :
    let viewer : Viewer :=
      { key := "orders", scrolls := { conversations := 65530, filters := 2 }
        arrangement := ({} : Arrangement).fit ⟨0, 0, 120, 30⟩ }
    let downs := List.replicate 10 { code := .down }
    let notch : MouseEvent := { action := .scrollUp, column := 100, row := 5 }
    viewer.IsPossible (some ⟨0, 0, 120, 30⟩) ∧
      viewer.steps (keyMoves downs) = (viewer.handle (.key { code := .pageDown })).1 ∧
      (viewer.steps (keyMoves downs)).scrolls = { conversations := 65535, filters := 2 } ∧
      viewer.pointed? notch = some .filters ∧
      (viewer.handle (.mouse notch)).1.scrolls = { conversations := 65530 } ∧
      viewer.handle (.mouse { notch with row := 30 }) = (viewer, false) ∧
      ({ key := "orders" } : Viewer).handle (.mouse notch) = ({ key := "orders" }, false) := by
  intro viewer downs notch
  have hpossible : viewer.IsPossible (some ⟨0, 0, 120, 30⟩) := by
    refine ⟨fun focus => ?_, 50, rfl⟩
    cases focus <;> decide
  obtain ⟨hpages, hnotches, -, -, -, hnothing, -, -⟩ := scrolling_saturates viewer _ hpossible
  obtain ⟨-, -, -, -, -, hundrawn, -, -⟩ :=
    scrolling_saturates _ none (new_possible {} "orders")
  have hpointed : viewer.pointed? notch = some .filters := by decide
  refine ⟨hpossible, (hpages rfl { code := .pageDown } downs rfl).1 rfl (by decide), by decide,
    hpointed, ?_, hnothing _ (.inr (.inr ?_)), hundrawn notch (.inr (.inr ?_))⟩
  · rw [(hnotches notch .filters hpointed).2 rfl]
    decide
  · intro area harea
    cases harea
    decide
  · intro area harea
    cases harea

end Viewer

end CatalogView
