import CatalogView.Proofs.Store.Run
import CatalogView.View.Draw
import CatalogView.Viewer.Handle

/-!
# Runs of the viewer

The viewer is started, reacts to events, takes over outcomes and is drawn, and the tasks behind its
store go on meanwhile, all in any order and as often as it happens. `Viewer.steps_induction` is how
to prove something of all runs, and `Viewer.handle_reaction` says what an event can change.
`Viewer.steps_store` says that a run of the viewer is a run of its store, so that what holds of all
runs of a store holds of the viewer's.
-/

namespace CatalogView.Viewer

open CatalogView.Slack CatalogView.Table

/-- A turn in a run of the viewer. -/
inductive Move where
  /-- The viewer is started, where `read` finds the documents. -/
  | start (read : String → Document)
  | handle (event : Event)
  | refresh
  | render (width height : Nat)
  | work (task : Task)

/-- The move starts the viewer. -/
def Move.isStart : Move → Bool
  | .start _ => true
  | _ => false

/-- The viewer after a move. -/
def step (viewer : Viewer) : Move → Viewer
  | .start read => viewer.start read
  | .handle event => (viewer.handle event).1
  | .refresh => viewer.refresh
  | .render width height => (viewer.render width height).1
  | .work task => { viewer with store := viewer.store.step (.work task) }

/-- The viewer after several moves. -/
def steps (viewer : Viewer) (moves : List Move) : Viewer :=
  moves.foldl step viewer

/-- A run may end with one more move. -/
theorem steps_append_singleton (viewer : Viewer) (moves : List Move) (move : Move) :
    viewer.steps (moves ++ [move]) = (viewer.steps moves).step move :=
  List.foldl_append

/-- What holds at first and is kept by every move holds after every run. -/
theorem steps_induction {Holds : Viewer → Prop} {viewer : Viewer} (start : Holds viewer)
    (step : ∀ viewer move, Holds viewer → Holds (viewer.step move)) (moves : List Move) :
    Holds (viewer.steps moves) := by
  induction moves generalizing viewer with
  | nil => exact start
  | cons move moves ih => exact ih (step viewer move start)

/-- What an event can change. -/
inductive Reaction (viewer : Viewer) : Viewer → Prop where
  /-- How the viewer looks. -/
  | look (showsHelp focus scrolls arrangement) :
      Reaction viewer { viewer with showsHelp, focus, scrolls, arrangement }
  | openError : viewer.error?.isSome = true → Reaction viewer { viewer with showsError := true }
  | closeError : Reaction viewer { viewer with showsError := false }
  | reload : Reaction viewer viewer.reload

/-- Every command leads to a reaction. -/
theorem run_reaction (viewer : Viewer) (command : Command) :
    Reaction viewer (viewer.run command) := by
  cases command with
  | openError =>
      cases herror : viewer.error?.isSome with
      | false => simpa [run, herror] using @Reaction.look viewer ..
      | true => simpa [run, herror] using Reaction.openError herror
  | closeError => exact .closeError
  | reload => exact .reload
  | nothing | quit | toggleHelp | closeHelp | focusNext | focusPrevious | scroll | narrow =>
      exact .look ..

/-- The mouse changes the focus and the scrolls at most. -/
theorem point_eq (viewer : Viewer) (event : MouseEvent) :
    ∃ focus scrolls, viewer.point event = { viewer with focus, scrolls } := by
  unfold point
  split
  · exact ⟨_, _, rfl⟩
  · split <;> exact ⟨_, _, rfl⟩

/-- The mouse changes how the viewer looks. -/
theorem point_reaction (viewer : Viewer) (event : MouseEvent) :
    Reaction viewer (viewer.point event) := by
  obtain ⟨_, _, hpoint⟩ := point_eq viewer event
  exact hpoint ▸ .look ..

/-- Every event leads to a reaction. -/
theorem handle_reaction (viewer : Viewer) (event : Event) :
    Reaction viewer (viewer.handle event).1 := by
  cases event with
  | key event => exact run_reaction viewer (viewer.command event)
  | mouse event => exact point_reaction viewer event
  | focusGained | focusLost | paste | resize => exact .look ..

/-- The start takes over what is found out about the table, which can be an error, and reloads. -/
theorem start_eq (viewer : Viewer) (read : String → Document) :
    ∃ table? detail error? isFetchError,
      viewer.start read =
        ({ viewer with table?, detail, error?, isFetchError } : Viewer).reload := by
  unfold start
  extract_lets named detailed
  have hnamed : ∃ table? error? isFetchError,
      named = { viewer with table?, error?, isFetchError } := by
    unfold named
    split <;> exact ⟨_, _, _, rfl⟩
  have hdetailed : ∃ table? detail error? isFetchError,
      detailed = { viewer with table?, detail, error?, isFetchError } := by
    obtain ⟨table?, error?, isFetchError, hnamed⟩ := hnamed
    unfold detailed
    rw [hnamed]
    split
    · exact ⟨_, _, _, _, rfl⟩
    · split <;> exact ⟨_, _, _, _, rfl⟩
  obtain ⟨_, _, _, _, hdetailed⟩ := hdetailed
  exact ⟨_, _, _, _, congrArg reload hdetailed⟩

/-- Taking over outcomes applies all that have arrived, and changes the error and whether it is
shown at most. -/
theorem refresh_eq (viewer : Viewer) :
    ∃ error? isFetchError showsError,
      viewer.refresh =
        { viewer with store := viewer.store.process, error?, isFetchError, showsError } := by
  unfold refresh
  split
  case isTrue hempty =>
    rw [Store.process_of_none (List.isEmpty_iff.1 hempty)]
    exact ⟨_, _, _, rfl⟩
  case isFalse =>
    extract_lets store fresh
    split
    · exact ⟨_, _, _, rfl⟩
    · split <;> exact ⟨_, _, _, rfl⟩

variable {viewer next : Viewer}

/-- An event leaves the resource key alone. -/
theorem Reaction.key_eq (hreaction : Reaction viewer next) : next.key = viewer.key := by
  cases hreaction with
  | look | openError | closeError | reload => rfl

/-- The viewer keeps its resource key. -/
theorem step_key (viewer : Viewer) (move : Move) : (viewer.step move).key = viewer.key := by
  cases move with
  | start read =>
      obtain ⟨_, _, _, _, hstart⟩ := start_eq viewer read
      show (viewer.start read).key = viewer.key
      rw [hstart]
      rfl
  | handle event => exact (handle_reaction viewer event).key_eq
  | refresh =>
      obtain ⟨_, _, _, hrefresh⟩ := refresh_eq viewer
      show viewer.refresh.key = viewer.key
      rw [hrefresh]
  | render | work => rfl

/-! ## The store in a run -/

/-- The event is the key that asks for the conversations again, and neither the help nor an error
takes it for itself. -/
def reloads (viewer : Viewer) : Event → Bool
  | .key event => event.code = .char 'r' && !viewer.showsHelp && !viewer.showsError
  | _ => false

/-- What the viewer does with its store in a move. -/
def storeMoves (viewer : Viewer) : Move → List Slack.Move
  | .start _ => [.dispatch (.request viewer.key)]
  | .handle event =>
    if viewer.reloads event then [.dispatch (.request viewer.key)] else []
  | .refresh => [.process]
  | .render .. => []
  | .work task => [.work task]

/-- What the viewer does with its store in several moves. -/
def storeRun (viewer : Viewer) : List Move → List Slack.Move
  | [] => []
  | move :: moves => viewer.storeMoves move ++ (viewer.step move).storeRun moves

/-- What the viewer does with its store in one more move comes last. -/
theorem store_run_append_singleton (viewer : Viewer) (moves : List Move) (move : Move) :
    viewer.storeRun (moves ++ [move]) =
      viewer.storeRun moves ++ (viewer.steps moves).storeMoves move := by
  induction moves generalizing viewer with
  | nil => exact List.append_nil _
  | cons first moves ih =>
      show viewer.storeMoves first ++ (viewer.step first).storeRun (moves ++ [move]) = _
      rw [ih, ← List.append_assoc]
      rfl

/-- The help takes a key to close it, or for nothing. -/
theorem in_help_eq (code : KeyCode) :
    Command.inHelp code = .closeHelp ∨ Command.inHelp code = .nothing := by
  unfold Command.inHelp
  split
  · exact .inl rfl
  · exact .inr rfl

/-- So does an error. -/
theorem in_error_eq (code : KeyCode) :
    Command.inError code = .closeError ∨ Command.inError code = .nothing := by
  unfold Command.inError
  split
  · exact .inl rfl
  · exact .inl rfl
  · exact .inl rfl
  · exact .inr rfl

/-- Among the panels one key asks for the conversations again. -/
theorem in_panels_eq_reload_iff (code : KeyCode) :
    Command.inPanels code = .reload ↔ code = .char 'r' := by
  unfold Command.inPanels
  split <;> simp_all

/-- The key gives the command to reload if and only if no popup takes it. -/
theorem command_eq_reload_iff (viewer : Viewer) (event : KeyEvent) :
    viewer.command event = .reload ↔ viewer.reloads (.key event) = true := by
  unfold command Command.ofKey reloads
  split
  case isTrue hquit => simp [hquit.1]
  case isFalse =>
    split
    case isTrue hhelp => simp [hhelp]
    case isFalse =>
      cases viewer.showsHelp with
      | true => rcases in_help_eq event.code with hcommand | hcommand <;> simp [hcommand]
      | false =>
          cases viewer.showsError with
          | true => rcases in_error_eq event.code with hcommand | hcommand <;> simp [hcommand]
          | false => simp [in_panels_eq_reload_iff]

/-- A command asks for the conversations if it is the one to reload, and else has nothing to do with
the store. -/
theorem run_store (viewer : Viewer) (command : Command) :
    (viewer.run command).store =
      if command = .reload then viewer.store.dispatch (.request viewer.key) else viewer.store := by
  cases command with
  | openError => cases herror : viewer.error?.isSome <;> simp [run, herror]
  | reload => rfl
  | nothing | quit | toggleHelp | closeHelp | closeError | focusNext | focusPrevious | scroll
  | narrow => rfl

/-- The mouse has nothing to do with the store. -/
theorem point_store (viewer : Viewer) (event : MouseEvent) :
    (viewer.point event).store = viewer.store := by
  obtain ⟨_, _, hpoint⟩ := point_eq viewer event
  rw [hpoint]

/-- What becomes of the store in a move. -/
theorem step_store (viewer : Viewer) (move : Move) :
    (viewer.step move).store = viewer.store.run (viewer.storeMoves move) := by
  cases move with
  | start read =>
      obtain ⟨_, _, _, _, hstart⟩ := start_eq viewer read
      show (viewer.start read).store = _
      rw [hstart]
      rfl
  | handle event =>
      cases event with
      | key event =>
          show (viewer.run (viewer.command event)).store =
            viewer.store.run (if viewer.reloads (.key event) then _ else _)
          rw [run_store]
          by_cases hreload : viewer.command event = .reload
          · rw [if_pos hreload, if_pos ((command_eq_reload_iff viewer event).1 hreload)]
            rfl
          · rw [if_neg hreload, if_neg (mt (command_eq_reload_iff viewer event).2 hreload)]
            rfl
      | mouse event => exact point_store viewer event
      | focusGained | focusLost | paste | resize => rfl
  | refresh =>
      obtain ⟨_, _, _, hrefresh⟩ := refresh_eq viewer
      show viewer.refresh.store = _
      rw [hrefresh]
      rfl
  | render | work => rfl

/-- A run of the viewer is a run of its store. -/
theorem steps_store (viewer : Viewer) (moves : List Move) :
    (viewer.steps moves).store = viewer.store.run (viewer.storeRun moves) := by
  induction moves generalizing viewer with
  | nil => rfl
  | cons move moves ih =>
      show ((viewer.step move).steps moves).store = _
      rw [ih, step_store, storeRun, Store.run_append]

end CatalogView.Viewer
