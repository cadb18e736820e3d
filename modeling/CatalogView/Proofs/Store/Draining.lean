import CatalogView.Proofs.Store.Run

/-!
# Outcomes taken one by one or many at once

The owner of a store can take all outcomes that have arrived, or wait for one and take that, as
often as it likes, while more of them arrive. Two stores are as good as each other when they are the
same after all outcomes have been taken (`Store.process`): taking some before makes no difference
(`step_process_of_take`), and the tasks behind the store do not care either (`process_work`).
`drained_alike` follows by induction for all runs in which nothing is dispatched, and counts what is
taken in any run.
-/

namespace CatalogView.Slack

/-- The move is a turn of the watcher or of a worker. -/
def Move.isWork : Move → Bool
  | .work _ => true
  | _ => false

/-- The move dispatches an action. -/
def Move.isDispatch : Move → Bool
  | .dispatch _ => true
  | _ => false

namespace Watcher

/-- The outcomes that arrive when a task is performed. -/
def arriving (watcher : Watcher) : Task → List Action
  | .finish index outcome =>
    if watcher.isPending index && watcher.isHeard then [.ofOutcome outcome] else []
  | .receive | .ask _ => []

/-- No task looks at the outcomes that have arrived, and what arrives is queued behind them. -/
theorem perform_with_outcomes (watcher : Watcher) (task : Task) (outcomes : List Action) :
    ({ watcher with outcomes } : Watcher).perform task =
      { watcher.perform task with outcomes := outcomes ++ watcher.arriving task } := by
  cases task with
  | receive =>
      simp only [perform, receive, arriving, List.append_nil]
      split
      · split <;> rfl
      · rfl
  | ask index =>
      simp only [perform, ask, arriving, List.append_nil]
      split <;> rfl
  | finish index outcome =>
      have hsame : ({ watcher with outcomes } : Watcher).isPending index =
          watcher.isPending index := rfl
      simp only [perform, finish, hsame, arriving]
      cases watcher.isPending index with
      | false => simp
      | true => cases watcher.isHeard <;> simp

/-- What arrives is queued behind what has arrived before. -/
theorem outcomes_perform (watcher : Watcher) (task : Task) :
    (watcher.perform task).outcomes = watcher.outcomes ++ watcher.arriving task :=
  congrArg Watcher.outcomes (perform_with_outcomes watcher task watcher.outcomes)

end Watcher

namespace Store

variable {store other : Store}

/-! ## What is taken -/

/-- The number of outcomes that a move answers it has applied. -/
def answer (store : Store) : Move → Nat
  | .process => store.drain.1
  | .next => if store.next.1 = .applied then 1 else 0
  | .dispatch _ | .work _ => 0

/-- The sum of what the moves of a run answer. -/
def answers (store : Store) : List Move → Nat
  | [] => 0
  | move :: moves => store.answer move + (store.step move).answers moves

/-- The outcomes that arrive in a move. -/
def arriving (store : Store) : Move → List Action
  | .work task => store.watcher.arriving task
  | .dispatch _ | .process | .next => []

/-- The outcomes that arrive in a run, in their order. -/
def arrivals (store : Store) : List Move → List Action
  | [] => []
  | move :: moves => store.arriving move ++ (store.step move).arrivals moves

/-- Dispatching an action leaves the outcomes where they are. -/
theorem outcomes_dispatch (store : Store) (action : Action) :
    (store.dispatch action).watcher.outcomes = store.watcher.outcomes := by
  cases action with
  | request key =>
      show (store.watcher.send (.request key)).outcomes = _
      unfold Watcher.send
      split <;> rfl
  | success | failure | other => rfl

/-- No task takes an outcome. -/
theorem applied_of_task (watcher : Watcher) (task : Task) :
    applied (watcher.occurrences task) = [] := by
  refine List.filterMap_eq_nil_iff.2 fun occurrence hmem => ?_
  exact (Occurrence.of_not_action (watcher.not_action_of_task task occurrence hmem)).2

/-- A move takes outcomes from the front of the queue, as many as it answers, and what arrives goes
to the end. -/
theorem step_queue (store : Store) (move : Move) :
    applied (store.occurrences move) ++ (store.step move).watcher.outcomes =
        store.watcher.outcomes ++ store.arriving move ∧
      (applied (store.occurrences move)).length = store.answer move := by
  cases move with
  | dispatch action =>
      exact ⟨(store.outcomes_dispatch action).trans (List.append_nil _).symm, rfl⟩
  | process =>
      rw [answer, drain_eq]
      simp [step, process, arriving, occurrences, Function.comp_def]
  | next =>
      cases houtcomes : store.watcher.outcomes with
      | nil =>
          simp only [step, answer, next, arriving, occurrences, houtcomes]
          cases store.watcher.isRunning <;> simp
      | cons outcome outcomes => simp [step, answer, next, arriving, occurrences, houtcomes]
  | work task =>
      have hnone := applied_of_task store.watcher task
      refine ⟨?_, congrArg List.length hnone⟩
      show applied (store.watcher.occurrences task) ++ (store.watcher.perform task).outcomes = _
      rw [hnone, Watcher.outcomes_perform]
      rfl

/-- What is taken in the first move of a run comes before what is taken in the others. -/
theorem applied_cons (store : Store) (move : Move) (moves : List Move) :
    applied (store.history (move :: moves)) =
      applied (store.occurrences move) ++ applied ((store.step move).history moves) :=
  List.filterMap_append

/-- What is taken in a run comes from the front of what was there and what arrived, in this order,
and it is as much as the moves answer together. -/
theorem run_queue (store : Store) (moves : List Move) :
    applied (store.history moves) ++ (store.run moves).watcher.outcomes =
        store.watcher.outcomes ++ store.arrivals moves ∧
      (applied (store.history moves)).length = store.answers moves := by
  induction moves generalizing store with
  | nil => exact ⟨(List.append_nil _).symm, rfl⟩
  | cons move moves ih =>
      obtain ⟨hqueue, hanswer⟩ := step_queue store move
      obtain ⟨hqueues, hanswers⟩ := ih (store.step move)
      constructor
      · calc applied (store.history (move :: moves)) ++ (store.run (move :: moves)).watcher.outcomes
            = applied (store.occurrences move) ++ (applied ((store.step move).history moves) ++
                ((store.step move).run moves).watcher.outcomes) := by
              rw [applied_cons, List.append_assoc]
              rfl
          _ = (applied (store.occurrences move) ++ (store.step move).watcher.outcomes) ++
                (store.step move).arrivals moves := by rw [hqueues, List.append_assoc]
          _ = store.watcher.outcomes ++ store.arrivals (move :: moves) := by
              rw [hqueue, List.append_assoc]
              rfl
      · rw [applied_cons, List.length_append, hanswer, hanswers]
        rfl

/-- Where nothing is dispatched the feed changes by the outcomes that are taken. -/
theorem run_feed {moves : List Move} (hmoves : ∀ move ∈ moves, move.isDispatch = false)
    (store : Store) : (store.run moves).feed = store.feed.run (applied (store.history moves)) := by
  induction moves generalizing store with
  | nil => rfl
  | cons move moves ih =>
      obtain ⟨hmove, hrest⟩ := List.forall_mem_cons.1 hmoves
      have hstep : (store.step move).feed = store.feed.run (applied (store.occurrences move)) := by
        cases move with
        | dispatch => cases hmove
        | process => simp [step, process, occurrences, Function.comp_def]
        | next => cases houtcomes : store.watcher.outcomes <;>
            simp [step, next, occurrences, houtcomes]
        | work task =>
            rw [occurrences, applied_of_task]
            rfl
      show ((store.step move).run moves).feed = _
      rw [ih hrest, hstep, ← Feed.run_append, applied_cons]

/-! ## Stores that are the same in the end -/

/-- Taking outcomes before all are taken makes no difference. -/
theorem step_process_of_take (store : Store) {move : Move} (hwork : move.isWork = false)
    (hdispatch : move.isDispatch = false) : (store.step move).process = store.process := by
  cases move with
  | dispatch => cases hdispatch
  | process => exact process_of_none rfl
  | next => cases houtcomes : store.watcher.outcomes <;> simp [step, next, process, houtcomes]
  | work => cases hwork

/-- It makes no difference either if outcomes are taken before a task is performed or after it. -/
theorem process_work (store : Store) (task : Task) :
    (store.process.step (.work task)).process = (store.step (.work task)).process := by
  have hprocess : store.process.watcher.perform task =
      { store.watcher.perform task with outcomes := store.watcher.arriving task } :=
    Watcher.perform_with_outcomes store.watcher task []
  simp only [step]
  rw [hprocess]
  simp only [process, Watcher.outcomes_perform, Feed.run_append]

/-- Nor does it change what arrives. -/
theorem arriving_process (store : Store) (task : Task) :
    store.process.watcher.arriving task = store.watcher.arriving task := by
  cases task <;> rfl

/-- Stores that are the same after their outcomes have been taken stay so in runs with the same
tasks, whenever and however outcomes are taken in them, and the same outcomes arrive there. -/
theorem run_alike (halike : store.process = other.process) {moves : List Move}
    (hmoves : ∀ move ∈ moves, move.isDispatch = false) :
    (store.run moves).process = (other.run (moves.filter Move.isWork)).process ∧
      store.arrivals moves = other.arrivals (moves.filter Move.isWork) := by
  induction moves generalizing store other with
  | nil => exact ⟨halike, rfl⟩
  | cons move moves ih =>
      obtain ⟨hmove, hrest⟩ := List.forall_mem_cons.1 hmoves
      cases move with
      | dispatch => cases hmove
      | process | next => exact ih ((step_process_of_take store rfl rfl).trans halike) hrest
      | work task =>
          have hstep : (store.step (.work task)).process = (other.step (.work task)).process := by
            rw [← process_work, halike, process_work]
          have harriving : store.watcher.arriving task = other.watcher.arriving task := by
            rw [← arriving_process, halike, arriving_process]
          obtain ⟨hrun, harrivals⟩ := ih hstep hrest
          exact ⟨hrun, congrArg₂ (· ++ ·) harriving harrivals⟩

/-- Waiting for one outcome after the other takes all that have arrived. -/
theorem run_next (store : Store) :
    store.run (.replicate store.watcher.outcomes.length .next) = store.process := by
  cases store with
  | mk feed watcher =>
      cases watcher with
      | mk inbox workers outcomes isRunning isHeard =>
          induction outcomes generalizing feed with
          | nil => rfl
          | cons outcome outcomes ih => exact ih (feed.reduce outcome)

/-- In every run outcomes are taken from the front of the queue, as many as the moves answer. If
nothing is dispatched, the store is the same in the end as if all had been taken at once after the
last one had arrived, however they were taken: all of them one after the other, many of them
together, or some of them never until then. Taking outcomes where there are none changes nothing. -/
theorem drained_alike (store : Store) (moves : List Move) :
    let tasks := moves.filter Move.isWork
    let last := store.run moves
    -- what is taken, and what is answered
    (applied (store.history moves) ++ last.watcher.outcomes =
        store.watcher.outcomes ++ store.arrivals moves ∧
      store.answers moves = (applied (store.history moves)).length) ∧
    -- what has become of the store
    ((∀ move ∈ moves, move.isDispatch = false) →
      store.arrivals moves = store.arrivals tasks ∧
      last.drain.2 = (store.run tasks).drain.2 ∧
      (last.watcher.outcomes = [] → last = (store.run tasks).drain.2) ∧
      last.drain.2.feed = store.feed.run (store.watcher.outcomes ++ store.arrivals tasks)) ∧
    -- outcomes taken one after the other
    store.run (.replicate store.watcher.outcomes.length .next) = store.drain.2 ∧
    -- no outcomes
    (store.watcher.outcomes = [] → store.drain = (0, store)) := by
  intro tasks last
  obtain ⟨hqueue, hanswers⟩ := run_queue store moves
  simp only [drain_eq]
  refine ⟨⟨hqueue, hanswers.symm⟩, fun hmoves => ?_, store.run_next, fun hnone => ?_⟩
  · obtain ⟨hrun, harrivals⟩ := run_alike rfl hmoves
    refine ⟨harrivals, hrun, fun hnone => ?_, ?_⟩
    · rw [← hrun, process_of_none hnone]
    · show last.feed.run last.watcher.outcomes = _
      rw [run_feed hmoves store, ← Feed.run_append, hqueue, harrivals]
  · rw [hnone, process_of_none hnone]
    rfl

end Store

end CatalogView.Slack
