import CatalogView.Proofs.Viewer.Run

/-!
# Drawing does not influence behaviour

Drawing the viewer changes one thing: it remembers where the panels were drawn, for the mouse. So
two runs that differ in their drawings alone stay the same but for that memory, and the mouse does
the same in both where the memories agree. `drawing_without_influence` says so for runs of any
length, from any state of the viewer.
-/

namespace CatalogView.Viewer

open CatalogView.Screen CatalogView.Slack

/-- The move draws the viewer. -/
def Move.isRender : Move → Bool
  | .render .. => true
  | _ => false

/-- The move is something done with the mouse. -/
def Move.isMouse : Move → Bool
  | .handle (.mouse _) => true
  | _ => false

/-- The moves of a run without the drawings among them. -/
def undrawn (moves : List Move) : List Move :=
  moves.filter (!·.isRender)

/-- What decides where the panels are: the area that the screen covers, and the width that the side
asks for. -/
structure Drawing where
  area : Rect
  sideWidth : Nat
  deriving DecidableEq, Repr

/-- How a move draws the viewer, if it does. -/
def drawing? (viewer : Viewer) : Move → Option Drawing
  | .render width height => some ⟨(Canvas.blank width height).area, viewer.arrangement.sideWidth⟩
  | _ => none

/-- How the viewer was last drawn before each mouse event of a run, where `last?` is how it was last
drawn before the run. -/
def glimpses (viewer : Viewer) (last? : Option Drawing) : List Move → List (Option Drawing)
  | [] => []
  | move :: moves =>
    let later := (viewer.step move).glimpses ((viewer.drawing? move).or last?) moves
    if move.isMouse then last? :: later else later

/-- The viewer without its memory of where the panels were drawn. -/
def unplaced (viewer : Viewer) : Viewer :=
  { viewer with arrangement := { viewer.arrangement with panels := [] } }

/-- What is answered to a move: whether an event makes the viewer quit, and whether there was a
fetch to end. -/
def answer? (viewer : Viewer) : Move → Option Bool
  | .handle event => some (viewer.handle event).2
  | .work (.finish index _) => some (viewer.store.watcher.isPending index)
  | _ => none

/-- What all moves of a run but the drawings lead to: the answer, and the viewer after the move
without its memory of where the panels were drawn. -/
def results (viewer : Viewer) : List Move → List (Option Bool × Viewer)
  | [] => []
  | move :: moves =>
    let later := (viewer.step move).results moves
    if move.isRender then later
    else (viewer.answer? move, (viewer.step move).unplaced) :: later

/-! ## What one move does -/

/-- The panels that are remembered after a drawing, or those from before if there was none. -/
def panelsAfter (panels : List (Panel × Rect)) : Option Drawing → List (Panel × Rect)
  | none => panels
  | some drawing => Arrangement.place drawing.sideWidth drawing.area

/-- The last of two drawings is what counts. -/
theorem panels_after_or (panels : List (Panel × Rect)) (drawing? last? : Option Drawing) :
    panelsAfter panels (drawing?.or last?) = panelsAfter (panelsAfter panels last?) drawing? := by
  cases drawing? <;> rfl

/-- A viewer is known by its memory of the panels and all else. -/
theorem eq_of_unplaced {viewer other : Viewer} (hunplaced : viewer.unplaced = other.unplaced)
    (hpanels : viewer.arrangement.panels = other.arrangement.panels) : viewer = other := by
  obtain ⟨_, _, _, _, _, ⟨_, _⟩, _, _, _, _, _, _⟩ := viewer
  obtain ⟨_, _, _, _, _, ⟨_, _⟩, _, _, _, _, _, _⟩ := other
  simp_all [unplaced]

/-- The start does not need the memory. -/
theorem start_unplaced (viewer : Viewer) (read : String → Document) :
    viewer.unplaced.start read = (viewer.start read).unplaced := by
  unfold start
  extract_lets bareNamed bareDetailed named detailed
  have hnamed : bareNamed = named.unplaced := by
    have hkey : viewer.unplaced.key = viewer.key := rfl
    unfold bareNamed named
    rw [hkey]
    cases Table.Key.parse viewer.key <;> rfl
  have hdetailed : bareDetailed = detailed.unplaced := by
    have hsettings : viewer.unplaced.settings = viewer.settings := rfl
    unfold bareDetailed detailed
    rw [hnamed, hsettings]
    cases viewer.settings.view.detailFile? with
    | none => rfl
    | some path => cases hload : Table.Detail.load (read path) <;> simp only [hload] <;> rfl
  rw [hdetailed]
  rfl

/-- Nor does a command. -/
theorem run_unplaced (viewer : Viewer) (command : Command) :
    viewer.unplaced.run command = (viewer.run command).unplaced := by
  cases command with
  | openError =>
      show (if viewer.error?.isSome then _ else _) =
        unplaced (if viewer.error?.isSome then _ else _)
      rw [apply_ite unplaced]
      rfl
  | nothing | quit | toggleHelp | closeHelp | closeError | reload | focusNext | focusPrevious
  | scroll | narrow => rfl

/-- Nor does taking over outcomes. -/
theorem refresh_unplaced (viewer : Viewer) :
    viewer.unplaced.refresh = viewer.refresh.unplaced := by
  unfold refresh
  extract_lets bareStore bareFresh store fresh
  rw [apply_ite unplaced, apply_ite unplaced, apply_ite unplaced]
  rfl

/-- Beside drawing, the mouse is all that needs the memory. -/
theorem step_unplaced (viewer : Viewer) {move : Move} (hrender : move.isRender = false)
    (hmouse : move.isMouse = false) :
    viewer.unplaced.step move = (viewer.step move).unplaced := by
  cases move with
  | start read => exact start_unplaced viewer read
  | handle event =>
      cases event with
      | key event => exact run_unplaced viewer (viewer.command event)
      | mouse => cases hmouse
      | focusGained | focusLost | paste | resize => rfl
  | refresh => exact refresh_unplaced viewer
  | render => cases hrender
  | work => rfl

/-- Drawing changes nothing but the memory. -/
theorem step_unplaced_of_render (viewer : Viewer) {move : Move} (hrender : move.isRender = true) :
    (viewer.step move).unplaced = viewer.unplaced := by
  cases move with
  | render => rfl
  | start | handle | refresh | work => cases hrender

/-- No answer depends on the memory. -/
theorem answer_unplaced (viewer : Viewer) (move : Move) :
    viewer.unplaced.answer? move = viewer.answer? move := by
  cases move with
  | handle event => cases event <;> rfl
  | work task => cases task <;> rfl
  | start | refresh | render => rfl

/-- No command changes the memory. -/
theorem run_panels (viewer : Viewer) (command : Command) :
    (viewer.run command).arrangement.panels = viewer.arrangement.panels := by
  cases command with
  | openError => cases herror : viewer.error?.isSome <;> simp [run, herror]
  | nothing | quit | toggleHelp | closeHelp | closeError | reload | focusNext | focusPrevious
  | scroll | narrow => rfl

/-- Nor does the mouse. -/
theorem point_panels (viewer : Viewer) (event : MouseEvent) :
    (viewer.point event).arrangement.panels = viewer.arrangement.panels := by
  obtain ⟨_, _, hpoint⟩ := point_eq viewer event
  rw [hpoint]

/-- Drawing is all that changes the memory. -/
theorem step_panels (viewer : Viewer) (move : Move) :
    (viewer.step move).arrangement.panels =
      panelsAfter viewer.arrangement.panels (viewer.drawing? move) := by
  cases move with
  | start read =>
      obtain ⟨_, _, _, _, hstart⟩ := start_eq viewer read
      show (viewer.start read).arrangement.panels = viewer.arrangement.panels
      rw [hstart]
      rfl
  | handle event =>
      cases event with
      | key event => exact run_panels viewer (viewer.command event)
      | mouse event => exact point_panels viewer event
      | focusGained | focusLost | paste | resize => rfl
  | refresh =>
      obtain ⟨_, _, _, hrefresh⟩ := refresh_eq viewer
      show viewer.refresh.arrangement.panels = viewer.arrangement.panels
      rw [hrefresh]
  | render | work => rfl

/-- Viewers that are the same but for their memories give the same answer to a move that does not
draw, and stay the same but for their memories, if the memories agree in case the move is the
mouse's. -/
theorem step_agrees {viewer other : Viewer} {move : Move} (hrender : move.isRender = false)
    (hunplaced : viewer.unplaced = other.unplaced)
    (hseen : move.isMouse = true → viewer.arrangement.panels = other.arrangement.panels) :
    viewer.answer? move = other.answer? move ∧
      (viewer.step move).unplaced = (other.step move).unplaced := by
  refine ⟨?_, ?_⟩
  · rw [← answer_unplaced viewer, hunplaced, answer_unplaced]
  · cases hmouse : move.isMouse with
    | true => rw [eq_of_unplaced hunplaced (hseen hmouse)]
    | false =>
        rw [← step_unplaced viewer hrender hmouse, hunplaced, step_unplaced other hrender hmouse]

/-! ## Two runs -/

/-- The viewer remembers the panels of the last drawing, or those from before if there was none. -/
def Remembers (viewer : Viewer) (panels : List (Panel × Rect)) (last? : Option Drawing) : Prop :=
  viewer.arrangement.panels = panelsAfter panels last?

/-- It does so after one more move. -/
theorem Remembers.step {viewer : Viewer} {panels : List (Panel × Rect)} {last? : Option Drawing}
    (h : viewer.Remembers panels last?) (move : Move) :
    (viewer.step move).Remembers panels ((viewer.drawing? move).or last?) := by
  unfold Remembers at *
  rw [step_panels, panels_after_or, h]

/-- Two runs that differ in their drawings at most. -/
inductive Redrawn : List Move → List Move → Prop where
  | nil : Redrawn [] []
  | draw {move : Move} {first second : List Move} (render : move.isRender = true)
      (rest : Redrawn first second) : Redrawn (move :: first) second
  | drawOther {move : Move} {first second : List Move} (render : move.isRender = true)
      (rest : Redrawn first second) : Redrawn first (move :: second)
  | both {move : Move} {first second : List Move} (render : move.isRender = false)
      (rest : Redrawn first second) : Redrawn (move :: first) (move :: second)

section

variable {move : Move} {moves : List Move}

/-- A drawing is left out. -/
theorem undrawn_cons_of_render (hrender : move.isRender = true) :
    undrawn (move :: moves) = undrawn moves :=
  List.filter_cons_of_neg (by simp [hrender])

/-- Every other move stays. -/
theorem undrawn_cons_of_not_render (hrender : move.isRender = false) :
    undrawn (move :: moves) = move :: undrawn moves :=
  List.filter_cons_of_pos (by simp [hrender])

/-- A drawing is not the mouse's. -/
theorem Move.not_mouse_of_render (hrender : move.isRender = true) : move.isMouse = false := by
  cases move with
  | render => rfl
  | start | handle | refresh | work => cases hrender

/-- A drawing gives no result. -/
theorem results_cons_of_render (viewer : Viewer) (hrender : move.isRender = true) :
    viewer.results (move :: moves) = (viewer.step move).results moves :=
  if_pos hrender

/-- Nothing is seen of the last drawing in a move that is not the mouse's. -/
theorem glimpses_cons_of_not_mouse (viewer : Viewer) (last? : Option Drawing)
    (hmouse : move.isMouse = false) :
    viewer.glimpses last? (move :: moves) =
      (viewer.step move).glimpses ((viewer.drawing? move).or last?) moves :=
  if_neg (by simp [hmouse])

end

/-- Runs that are the same without their drawings differ in these at most. -/
theorem redrawn_of_undrawn_eq {first second : List Move} (h : undrawn first = undrawn second) :
    Redrawn first second := by
  induction first generalizing second with
  | nil =>
      induction second with
      | nil => exact .nil
      | cons other second ih =>
          cases hother : other.isRender with
          | true => exact .drawOther hother (ih (h.trans (undrawn_cons_of_render hother)))
          | false => cases h.trans (undrawn_cons_of_not_render hother)
  | cons move first ih =>
      cases hmove : move.isRender with
      | true => exact .draw hmove (ih ((undrawn_cons_of_render hmove).symm.trans h))
      | false =>
          induction second with
          | nil => cases (undrawn_cons_of_not_render hmove).symm.trans h
          | cons other second ihOther =>
              cases hother : other.isRender with
              | true =>
                  exact .drawOther hother (ihOther (h.trans (undrawn_cons_of_render hother)))
              | false =>
                  rw [undrawn_cons_of_not_render hmove, undrawn_cons_of_not_render hother] at h
                  obtain ⟨rfl, hrest⟩ := List.cons.inj h
                  exact .both hmove (ih hrest)

/-- Viewers that are the same but for their memories lead to the same results in runs that differ in
their drawings at most, if they were drawn alike before each mouse event. -/
theorem Redrawn.agree {first second : List Move} (hredrawn : Redrawn first second)
    {panels : List (Panel × Rect)} {viewer other : Viewer} {last? otherLast? : Option Drawing}
    (hunplaced : viewer.unplaced = other.unplaced) (hremembers : viewer.Remembers panels last?)
    (hotherRemembers : other.Remembers panels otherLast?)
    (hglimpses : viewer.glimpses last? first = other.glimpses otherLast? second) :
    viewer.results first = other.results second ∧
      (viewer.steps first).unplaced = (other.steps second).unplaced := by
  induction hredrawn generalizing viewer other last? otherLast? with
  | nil => exact ⟨rfl, hunplaced⟩
  | @draw move first second hrender _ ih =>
      rw [glimpses_cons_of_not_mouse _ _ (Move.not_mouse_of_render hrender)] at hglimpses
      rw [results_cons_of_render _ hrender]
      exact ih ((step_unplaced_of_render viewer hrender).trans hunplaced) (hremembers.step move)
        hotherRemembers hglimpses
  | @drawOther move first second hrender _ ih =>
      rw [glimpses_cons_of_not_mouse _ _ (Move.not_mouse_of_render hrender)] at hglimpses
      rw [results_cons_of_render _ hrender]
      exact ih (hunplaced.trans (step_unplaced_of_render other hrender).symm) hremembers
        (hotherRemembers.step move) hglimpses
  | @both move first second hrender _ ih =>
      have hseen : (move.isMouse = true → last? = otherLast?) ∧
          (viewer.step move).glimpses ((viewer.drawing? move).or last?) first =
            (other.step move).glimpses ((other.drawing? move).or otherLast?) second := by
        unfold glimpses at hglimpses
        cases hmouse : move.isMouse with
        | true =>
            rw [hmouse] at hglimpses
            obtain ⟨hlast, hlater⟩ := List.cons.inj hglimpses
            exact ⟨fun _ => hlast, hlater⟩
        | false =>
            rw [hmouse] at hglimpses
            exact ⟨Bool.noConfusion, hglimpses⟩
      obtain ⟨hanswer, hstep⟩ := step_agrees hrender hunplaced fun hmouse => by
        rw [hremembers, hotherRemembers, hseen.1 hmouse]
      obtain ⟨hresults, hfinal⟩ :=
        ih hstep (hremembers.step move) (hotherRemembers.step move) hseen.2
      refine ⟨?_, hfinal⟩
      unfold results
      rw [hrender, hanswer, hstep, hresults]

/-- Nothing is seen of the drawings in a run without the mouse. -/
theorem glimpses_eq_nil {moves : List Move} (hmouse : ∀ move ∈ moves, move.isMouse = false)
    (viewer : Viewer) (last? : Option Drawing) : viewer.glimpses last? moves = [] := by
  induction moves generalizing viewer last? with
  | nil => rfl
  | cons move moves ih =>
      rw [glimpses_cons_of_not_mouse _ _ (hmouse move (.head _))]
      exact ih (fun other hmem => hmouse other (.tail _ hmem)) ..

/-- Take two runs from the same state that are the same without their drawings, which may be any
number in either, on screens of any size. If they are without the mouse, or if the viewer was drawn
alike, or never, before each mouse event, then all other moves have the same answers and lead to the
same viewers, with the same requests and fetches, but for the memory of where the panels were
drawn. -/
theorem drawing_without_influence (viewer : Viewer) {first second : List Move}
    (hundrawn : undrawn first = undrawn second)
    (hseen : (∀ move ∈ first, move.isMouse = false) ∨
      viewer.glimpses none first = viewer.glimpses none second) :
    viewer.results first = viewer.results second ∧
      (viewer.steps first).unplaced = (viewer.steps second).unplaced := by
  have hglimpses : viewer.glimpses none first = viewer.glimpses none second := by
    obtain hfirst | hglimpses := hseen
    · have hsecond : ∀ move ∈ second, move.isMouse = false := by
        intro move hmem
        cases hrender : move.isRender with
        | true => exact Move.not_mouse_of_render hrender
        | false =>
            have hundrawnMem : move ∈ undrawn second :=
              List.mem_filter.2 ⟨hmem, by simp [hrender]⟩
            rw [← hundrawn] at hundrawnMem
            exact hfirst move (List.mem_filter.1 hundrawnMem).1
      rw [glimpses_eq_nil hfirst, glimpses_eq_nil hsecond]
    · exact hglimpses
  have hremembers : viewer.Remembers viewer.arrangement.panels none := rfl
  exact (redrawn_of_undrawn_eq hundrawn).agree rfl hremembers hremembers hglimpses

/-- The side is made narrower after a drawing, and a click is still for the filters that were drawn
where it was made, with or without more drawings before and after. -/
theorem click_on_drawn_filters :
    let viewer : Viewer := { key := "hive://gold.core/orders" }
    let press (code : KeyCode) : Move := .handle (.key { code })
    let click : Move := .handle (.mouse { action := .press .left, column := 71, row := 5 })
    let first := [.render 120 30, press (.char '>'), click]
    let second := [.render 60 20, .render 120 30, press (.char '>'), click, .render 80 24]
    undrawn first = undrawn second ∧
      viewer.glimpses none first = viewer.glimpses none second ∧
      (viewer.steps first).focus = .filters ∧
      viewer.results first = viewer.results second ∧
      (viewer.steps first).unplaced = (viewer.steps second).unplaced := by
  intro viewer press click first second
  have hglimpses : viewer.glimpses none first = viewer.glimpses none second := rfl
  exact ⟨rfl, hglimpses, rfl, drawing_without_influence viewer rfl (.inr hglimpses)⟩

end CatalogView.Viewer
