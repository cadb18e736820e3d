import CatalogView.Proofs.Store.Conservation

/-!
# What has been requested

A request that was dispatched either waits to be received or has a worker. `Watcher.requested` puts
both together, so it stays the same while the watcher and its workers go on, and when they have
caught up a fetch has begun for each of the requests (`IsCaughtUp.calls`).
-/

namespace CatalogView.Slack

/-- The key of the request that the owner of a store dispatches in a move. -/
def Move.requested? : Move → Option String
  | .dispatch action => action.requestKey?
  | _ => none

/-- A request is dispatched in a move that dispatches one, and in no other. -/
theorem Store.requests_occurrences (store : Store) (move : Move) :
    requests (store.occurrences move) = move.requested?.toList := by
  have happlied : ∀ outcomes : List Action, requests (outcomes.map .applied) = [] := by
    intro outcomes
    refine List.filterMap_eq_nil_iff.2 fun occurrence hmem => ?_
    obtain ⟨outcome, -, rfl⟩ := List.mem_map.1 hmem
    rfl
  cases move with
  | dispatch action => cases action <;> rfl
  | process => exact happlied store.watcher.outcomes
  | next => exact happlied (store.watcher.outcomes.take 1)
  | work task =>
      refine List.filterMap_eq_nil_iff.2 fun occurrence hmem => ?_
      exact (Occurrence.of_not_action (store.watcher.not_action_of_task task occurrence hmem)).1

/-- The requests of a run are those of its moves. -/
theorem Store.requests_history (store : Store) (moves : List Move) :
    requests (store.history moves) = moves.filterMap Move.requested? := by
  induction moves generalizing store with
  | nil => rfl
  | cons move moves ih =>
      rw [Store.history, requests, List.filterMap_append]
      show requests (store.occurrences move) ++ requests ((store.step move).history moves) = _
      rw [requests_occurrences, ih]
      cases hmove : move.requested? <;> simp [hmove]

namespace Watcher

/-- The keys of the requests that were sent to the watcher, whether it has received them or not. -/
def requested (watcher : Watcher) : List String :=
  watcher.workers.map (·.key) ++ watcher.inbox.filterMap Action.requestKey?

/-- Nothing waits to be received, and all workers have asked. -/
structure IsCaughtUp (watcher : Watcher) : Prop where
  received : watcher.inbox = []
  asked : ∀ worker ∈ watcher.workers, worker.phase ≠ .started

/-- Fetches begin for requests, each for one, in the order in which the requests were sent. -/
theorem calls_sublist (watcher : Watcher) : watcher.calls.Sublist watcher.requested :=
  (List.filter_sublist.map _).trans (List.sublist_append_left ..)

/-- A fetch has begun for every request when the watcher and its workers have caught up. -/
theorem IsCaughtUp.calls {watcher : Watcher} (h : watcher.IsCaughtUp) :
    watcher.calls = watcher.requested := by
  have hall : watcher.workers.filter (·.phase != .started) = watcher.workers := by
    refine List.filter_eq_self.2 fun worker hworker => ?_
    simpa using h.asked worker hworker
  unfold Watcher.calls requested
  rw [hall, h.received, List.filterMap_nil, List.append_nil]

/-- They have caught up after they went on until they had to wait. -/
theorem settle_caught_up {watcher : Watcher} (hrunning : watcher.isRunning = true) :
    watcher.settle.IsCaughtUp := by
  unfold settle
  rw [if_pos hrunning]
  refine ⟨rfl, fun worker hworker => ?_⟩
  obtain ⟨before, -, rfl⟩ := List.mem_map.1 hworker
  unfold Worker.ask
  cases hphase : before.phase <;> simp [hphase]

/-- No request gets lost meanwhile. -/
theorem settle_requested (watcher : Watcher) : watcher.settle.requested = watcher.requested := by
  have hkey : ∀ worker : Worker, worker.ask.key = worker.key := by
    intro worker
    unfold Worker.ask
    split <;> rfl
  unfold settle
  split
  case isTrue =>
    simp only [requested, workersFor, List.map_map, Function.comp_def, hkey, List.filterMap_nil,
      List.append_nil, List.map_append, List.map_filterMap, Option.map_map, Option.map_id']
  case isFalse => rfl

end Watcher

/-- What was sent to the watcher is what has been requested. -/
theorem Store.Books.requested {store : Store} {past : List Occurrence} (h : Books store past) :
    store.watcher.requested = Slack.requests past := by
  have hkeys := congrArg (List.filterMap Action.requestKey?) h.requests
  simp only [List.filterMap_append, List.filterMap_map, Function.comp_def, Action.requestKey?,
    List.filterMap_some, List.filterMap_eq_map'] at hkeys
  exact hkeys.symm

/-- The watcher and the workers of a store never stop by themselves. -/
theorem Store.run_running (moves : List Move) : (run {} moves).watcher.isRunning = true := by
  have hlive := @run_turns (fun store _ => store.Live) ⟨rfl, rfl, by simp⟩
    (fun hlive _ hturn => hturn.live hlive) moves
  exact hlive.running

end CatalogView.Slack
