import CatalogView.Proofs.Store.Turn

/-!
# Stores that outlive their tasks

When the watcher and the workers of a store are stopped, the store is still there with the outcomes
that have arrived. `Store.LateTurn` lists what can happen to it from then on: actions are dispatched
and outcomes taken, and nothing else moves. `Store.Legacy` says what is left at every moment, and
`run_legacy` that no run changes it.
-/

namespace CatalogView.Slack.Store

open Watcher

/-- What can happen in one turn to a store whose tasks were stopped. -/
inductive LateTurn (store : Store) : List Occurrence → Store → Prop where
  | idle : LateTurn store [] store
  | dispatch (action) :
      LateTurn store [.dispatched action] { store with feed := store.feed.reduce action }
  | take (taken outcomes) :
      store.watcher.outcomes = taken ++ outcomes →
      LateTurn store (taken.map .applied)
        { feed := store.feed.run taken, watcher := { store.watcher with outcomes } }

variable {store next : Store}

/-- A dispatched action changes the feed, and reaches no watcher that was stopped. -/
theorem dispatch_of_stopped (hstopped : store.watcher.isRunning = false) (action : Action) :
    store.dispatch action = { store with feed := store.feed.reduce action } := by
  cases action with
  | request key => simp [dispatch, send, hstopped]
  | success | failure | other => rfl

/-- A task that was stopped does nothing. -/
theorem perform_of_stopped {watcher : Watcher} (hstopped : watcher.isRunning = false)
    (task : Task) : watcher.perform task = watcher ∧ watcher.occurrences task = [] := by
  cases task with
  | receive => simp [perform, receive, Watcher.occurrences, hstopped]
  | ask index => simp [perform, ask, Watcher.occurrences, hstopped]
  | finish index outcome =>
      simp [perform, Watcher.finish, Watcher.occurrences, isPending, hstopped]

/-- Every move of a store whose tasks were stopped is a late turn. -/
theorem step_late_turn (hstopped : store.watcher.isRunning = false) (move : Move) :
    LateTurn store (store.occurrences move) (store.step move) := by
  cases move with
  | dispatch action =>
      show LateTurn store [.dispatched action] (store.dispatch action)
      rw [dispatch_of_stopped hstopped]
      exact .dispatch action
  | process => exact .take store.watcher.outcomes [] (by simp)
  | next =>
      cases houtcomes : store.watcher.outcomes with
      | nil => simpa [Store.occurrences, step, Store.next, houtcomes] using @LateTurn.idle store
      | cons outcome outcomes =>
          simpa [Store.occurrences, step, Store.next, houtcomes] using
            LateTurn.take [outcome] outcomes (by simpa using houtcomes)
  | work task =>
      obtain ⟨hsame, hnothing⟩ := perform_of_stopped hstopped task
      simpa [Store.occurrences, step, hsame, hnothing] using @LateTurn.idle store

/-- What is left of a store whose tasks were stopped, after some more has happened. -/
structure Legacy (stopped store : Store) (past : List Occurrence) : Prop where
  running : store.watcher.isRunning = false
  /-- The outcomes that had arrived are applied in their order, and the others still queued. -/
  outcomes : applied past ++ store.watcher.outcomes = stopped.watcher.outcomes
  /-- No worker is started or moves on. -/
  workers : store.watcher.workers = stopped.watcher.workers
  starts : starts past = []
  asks : ∀ index, asks index past = []
  finishes : finishes past = []
  /-- The feed changes by what is dispatched and what is applied. -/
  feed : store.feed = stopped.feed.run (actions past)

/-- Every late turn leaves the legacy as it is. -/
theorem LateTurn.legacy {stopped : Store} {past occurring : List Occurrence}
    (hturn : LateTurn store occurring next) (h : Legacy stopped store past) :
    Legacy stopped next (past ++ occurring) := by
  obtain ⟨hstopped, houtcomes, hworkers, hstarts, hasks, hfinishes, hfeed⟩ := h
  cases hturn with
  | idle => simpa using ⟨hstopped, houtcomes, hworkers, hstarts, hasks, hfinishes, hfeed⟩
  | dispatch action =>
      refine ⟨hstopped, ?_, hworkers, ?_, fun index => ?_, ?_, ?_⟩
      · simpa [List.filterMap_cons] using houtcomes
      · simpa [List.filterMap_cons] using hstarts
      · simpa [List.filterMap_cons] using hasks index
      · simpa [List.filterMap_cons] using hfinishes
      · simp [hfeed, Feed.run_append]
  | take taken outcomes htaken =>
      refine ⟨hstopped, ?_, hworkers, ?_, fun index => ?_, ?_, ?_⟩
      · simpa [Function.comp_def, htaken] using houtcomes
      · simpa [Function.comp_def] using hstarts
      · simpa [Function.comp_def] using hasks index
      · simpa [Function.comp_def] using hfinishes
      · simp [Function.comp_def, hfeed, Feed.run_append]

/-- What is left of a store stays the same at every moment of a run after its tasks were stopped. -/
theorem run_legacy {stopped : Store} (hstopped : stopped.watcher.isRunning = false)
    (moves : List Move) : Legacy stopped (stopped.run moves) (stopped.history moves) := by
  induction moves using List.reverseRecOn with
  | nil => exact ⟨hstopped, rfl, rfl, rfl, fun _ => rfl, rfl, rfl⟩
  | append_singleton moves move ih =>
      have hturn := step_late_turn ih.running move
      rw [run_append, history_append]
      simpa [run, history] using hturn.legacy ih

end CatalogView.Slack.Store
