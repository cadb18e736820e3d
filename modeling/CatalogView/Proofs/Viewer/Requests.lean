import CatalogView.Proofs.Store.Requested
import CatalogView.Proofs.Viewer.Run

/-!
# What begins a fetch

Whether a key asks for the conversations depends on the popups, and they on all that happened
before. So the reloads are counted along the run. `fetches_follow_requests` says that they and the
starts are all that sends requests, that each request is for the viewer's own table, and that there
are as many fetches as requests once the tasks behind the store have had their turns.
-/

namespace CatalogView.Viewer

open CatalogView.Slack

/-- The move is a key that asks for the conversations while no popup is shown. -/
def isReload (viewer : Viewer) : Move → Bool
  | .handle event => viewer.reloads event
  | _ => false

/-- The number of reloads in a run. -/
def reloadCount (viewer : Viewer) : List Move → Nat
  | [] => 0
  | move :: moves => (viewer.isReload move).toNat + (viewer.step move).reloadCount moves

/-- The move is a turn of the watcher or of a worker. -/
def Move.isWork : Move → Bool
  | .work _ => true
  | _ => false

/-- A start dispatches one request, so does a reload, and no other move dispatches any. -/
theorem requested_store_moves (viewer : Viewer) (move : Move) :
    (viewer.storeMoves move).filterMap Slack.Move.requested? =
      List.replicate (move.isStart.toNat + (viewer.isReload move).toNat) viewer.key := by
  cases move with
  | handle event =>
      simp only [storeMoves, isReload, Move.isStart]
      cases viewer.reloads event <;> rfl
  | start | refresh | render | work => rfl

/-- The requests of a run are as many as its starts and reloads together, and all for the viewer's
own key. -/
theorem requested_store_run (viewer : Viewer) (moves : List Move) :
    (viewer.storeRun moves).filterMap Slack.Move.requested? =
      List.replicate (moves.countP Move.isStart + viewer.reloadCount moves) viewer.key := by
  induction moves generalizing viewer with
  | nil => rfl
  | cons move moves ih =>
      have hcount : (move :: moves).countP Move.isStart + viewer.reloadCount (move :: moves) =
          move.isStart.toNat + (viewer.isReload move).toNat +
            (moves.countP Move.isStart + (viewer.step move).reloadCount moves) := by
        have hstart : (if move.isStart = true then 1 else 0) = move.isStart.toNat := by
          cases move.isStart <;> rfl
        rw [List.countP_cons, hstart, reloadCount]
        omega
      rw [storeRun, List.filterMap_append, requested_store_moves, ih, step_key,
        List.replicate_append_replicate, hcount]

section

variable (settings : Settings) (key : String) (moves : List Move)

/-- What has been sent to the watcher of a new viewer at some moment of a run. -/
theorem steps_requested :
    (({ settings, key } : Viewer).steps moves).store.watcher.requested =
      (({ settings, key } : Viewer).storeRun moves).filterMap Slack.Move.requested? := by
  rw [steps_store, (Store.run_books _).requested, Store.requests_history]

/-- The watcher of a new viewer runs at every moment. -/
theorem steps_running :
    (({ settings, key } : Viewer).steps moves).store.watcher.isRunning = true := by
  rw [steps_store]
  exact Store.run_running _

end

/-- A start and a reload dispatch a request and show the conversations from their beginning. -/
theorem step_of_asks (viewer : Viewer) {move : Move}
    (hasks : (move.isStart || viewer.isReload move) = true) :
    (viewer.step move).store = viewer.store.dispatch (.request viewer.key) ∧
      (viewer.step move).scrolls.conversations = 0 := by
  cases move with
  | start read =>
      obtain ⟨_, _, _, _, hstart⟩ := start_eq viewer read
      show (viewer.start read).store = _ ∧ (viewer.start read).scrolls.conversations = 0
      rw [hstart]
      exact ⟨rfl, rfl⟩
  | handle event =>
      cases event with
      | key event =>
          have hcommand : viewer.command event = .reload :=
            (command_eq_reload_iff viewer event).2 hasks
          show (viewer.run (viewer.command event)).store = _ ∧
            (viewer.run (viewer.command event)).scrolls.conversations = 0
          rw [hcommand]
          exact ⟨rfl, rfl⟩
      | mouse | focusGained | focusLost | paste | resize => cases hasks
  | refresh | render | work => cases hasks

/-- A fetch begins in a turn of a worker only. -/
theorem step_calls (viewer : Viewer) {move : Move} (hwork : move.isWork = false) :
    (viewer.step move).store.watcher.calls = viewer.store.watcher.calls := by
  have hdispatch : ∀ action, (viewer.store.dispatch action).watcher.calls =
      viewer.store.watcher.calls := by
    intro action
    cases action with
    | request key =>
        show (viewer.store.watcher.send (.request key)).calls = _
        unfold Watcher.send
        split <;> rfl
    | success | failure | other => rfl
  rw [step_store]
  cases move with
  | start read => exact hdispatch _
  | handle event =>
      show (viewer.store.run (if viewer.reloads event then _ else _)).watcher.calls = _
      split
      · exact hdispatch _
      · rfl
  | refresh | render => rfl
  | work => cases hwork

/-- At every moment of a run the requests that have been dispatched are as many as the starts and
the reloads, where a key reloads unless a popup takes it. All are for the viewer's own resource key,
and each one makes the feed wait and shows it from its beginning. Nothing else sends a request. The
fetches that have begun are for some of these requests, each for one, and for all of them once the
watcher and the workers have caught up. -/
theorem fetches_follow_requests (settings : Settings) (key : String) (moves : List Move) :
    let first : Viewer := { settings, key }
    let viewer := first.steps moves
    let count := moves.countP Move.isStart + first.reloadCount moves
    -- the requests
    viewer.store.watcher.requested = List.replicate count key ∧
    -- what sends one, and what it does
    (∀ move,
      let next := viewer.step move
      ((move.isStart || viewer.isReload move) = true →
        next.store = viewer.store.dispatch (.request key) ∧
          next.store.feed.isLoading = true ∧ next.store.feed.status? = none ∧
          next.scrolls.conversations = 0) ∧
      ((move.isStart || viewer.isReload move) = false →
        next.store.watcher.requested = viewer.store.watcher.requested) ∧
      (move.isWork = false → next.store.watcher.calls = viewer.store.watcher.calls)) ∧
    -- the fetches
    (viewer.store.watcher.calls.Sublist (List.replicate count key) ∧
      (viewer.store.watcher.IsCaughtUp →
        viewer.store.watcher.calls = List.replicate count key) ∧
      viewer.settle.store.watcher.calls = List.replicate count key) := by
  intro first viewer count
  have hkey : viewer.key = key := by
    refine @steps_induction (fun viewer => viewer.key = key) first rfl ?_ moves
    intro viewer move h
    rw [step_key, h]
  have hrequested : viewer.store.watcher.requested = List.replicate count key := by
    rw [steps_requested, requested_store_run]
  have hsettled := Watcher.settle_caught_up (steps_running settings key moves)
  refine ⟨hrequested, fun move => ⟨fun hasks => ?_, fun hother => ?_, step_calls viewer⟩,
    hrequested ▸ viewer.store.watcher.calls_sublist,
    fun hcaught => hcaught.calls.trans hrequested,
    hsettled.calls.trans ((Watcher.settle_requested _).trans hrequested)⟩
  · obtain ⟨hstore, hscroll⟩ := step_of_asks viewer hasks
    rw [hkey] at hstore
    rw [hstore]
    exact ⟨rfl, rfl, rfl, hscroll⟩
  · have hnone : (viewer.storeMoves move).filterMap Slack.Move.requested? = [] := by
      rw [Bool.or_eq_false_iff] at hother
      rw [requested_store_moves, hother.1, hother.2]
      rfl
    have hnext : viewer.step move = first.steps (moves ++ [move]) :=
      (steps_append_singleton first moves move).symm
    rw [hnext, steps_requested, steps_requested, store_run_append_singleton,
      List.filterMap_append, hnone, List.append_nil]

end CatalogView.Viewer
