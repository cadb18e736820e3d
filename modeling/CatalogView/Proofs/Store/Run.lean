import CatalogView.Slack.Store
import Mathlib.Data.List.Basic
import Mathlib.Data.List.Induction

/-!
# Runs of a store

The owner of a store, the watcher behind it and the workers that the watcher starts take turns in
any order. A run is a list of their moves, so what holds of every run holds of every order of turns.
`Store.history` lists what happens in a run. `Store.run_induction` is how to prove something of all
runs, and `Watcher.settle_eq_perform` says that letting the tasks go on until they have to wait is
taking some turns.
-/

namespace CatalogView.Slack

/-- What the watcher or one of its workers can do next. -/
inductive Task where
  /-- The watcher receives an action. -/
  | receive
  /-- A worker asks the catalog. -/
  | ask (worker : Nat)
  /-- The fetch of a worker ends. -/
  | finish (worker : Nat) (outcome : Except Failure Payload)

/-- A turn in a run of a store. -/
inductive Move where
  | dispatch (action : Action)
  | process
  | next
  | work (task : Task)

/-- Something that happens in a run of a store. Workers are told apart by the order in which they
are started. -/
inductive Occurrence where
  | dispatched (action : Action)
  | started (key : String)
  | asked (worker : Nat) (key : String)
  | finished (worker : Nat) (outcome : Except Failure Payload)
  /-- An outcome is taken from the queue and applied to the feed. -/
  | applied (outcome : Action)

namespace Occurrence

/-- The key of a request that is dispatched. -/
@[simp] def requested? : Occurrence → Option String
  | .dispatched action => action.requestKey?
  | _ => none

/-- The key that a worker is started for. -/
@[simp] def started? : Occurrence → Option String
  | .started key => some key
  | _ => none

/-- The key that a worker asks for. -/
@[simp] def asked? (index : Nat) : Occurrence → Option String
  | .asked worker key => if worker = index then some key else none
  | _ => none

/-- The worker whose fetch ends, and how it ends. -/
@[simp] def finished? : Occurrence → Option (Nat × Except Failure Payload)
  | .finished worker outcome => some (worker, outcome)
  | _ => none

/-- The outcome that is applied. -/
@[simp] def applied? : Occurrence → Option Action
  | .applied outcome => some outcome
  | _ => none

/-- The action by which the feed changes. -/
@[simp] def action? : Occurrence → Option Action
  | .dispatched action | .applied action => some action
  | _ => none

/-- What does not change the feed neither dispatches a request nor applies an outcome. -/
theorem of_not_action {occurrence : Occurrence} (h : occurrence.action? = none) :
    occurrence.requested? = none ∧ occurrence.applied? = none := by
  cases occurrence with
  | dispatched | applied => cases h
  | started | asked | finished => exact ⟨rfl, rfl⟩

end Occurrence

/-- The keys of the requests that were dispatched. -/
abbrev requests (past : List Occurrence) : List String := past.filterMap Occurrence.requested?

/-- The keys that workers were started for. -/
abbrev starts (past : List Occurrence) : List String := past.filterMap Occurrence.started?

/-- The keys that a worker asked for. -/
abbrev asks (index : Nat) (past : List Occurrence) : List String :=
  past.filterMap (Occurrence.asked? index)

/-- The fetches that ended. -/
abbrev finishes (past : List Occurrence) : List (Nat × Except Failure Payload) :=
  past.filterMap Occurrence.finished?

/-- The outcomes that were applied. -/
abbrev applied (past : List Occurrence) : List Action := past.filterMap Occurrence.applied?

/-- The actions by which the feed changed, dispatched or applied. -/
abbrev actions (past : List Occurrence) : List Action := past.filterMap Occurrence.action?

namespace Watcher

/-- The watcher after a task. Nothing changes if the task is not due. -/
def perform (watcher : Watcher) : Task → Watcher
  | .receive => watcher.receive
  | .ask worker => watcher.ask worker
  | .finish worker outcome => watcher.finish worker outcome

/-- What happens when a task is performed. -/
def occurrences (watcher : Watcher) : Task → List Occurrence
  | .receive =>
    if watcher.isRunning then
      (workersFor (watcher.inbox.take 1)).map fun worker => .started worker.key
    else []
  | .ask index =>
    if watcher.isRunning then
      ((watcher.workers[index]?.filter (·.phase = .started)).toList).map
        fun worker => .asked index worker.key
    else []
  | .finish index outcome =>
    if watcher.isPending index then [.finished index outcome] else []

/-- No task dispatches an action or applies one. -/
theorem not_action_of_task (watcher : Watcher) (task : Task) :
    ∀ occurrence ∈ watcher.occurrences task, occurrence.action? = none := by
  intro occurrence hmem
  cases task with
  | receive =>
      simp only [occurrences] at hmem
      split at hmem
      · obtain ⟨worker, -, rfl⟩ := List.mem_map.1 hmem
        rfl
      · cases hmem
  | ask index =>
      simp only [occurrences] at hmem
      split at hmem
      · obtain ⟨worker, -, rfl⟩ := List.mem_map.1 hmem
        rfl
      · cases hmem
  | finish index outcome =>
      simp only [occurrences] at hmem
      split at hmem
      · obtain rfl := List.mem_singleton.1 hmem
        rfl
      · cases hmem

/-- The watcher after several tasks. -/
def performAll (watcher : Watcher) (tasks : List Task) : Watcher :=
  tasks.foldl perform watcher

/-- Tasks performed one after the other are performed together. -/
theorem perform_all_append (watcher : Watcher) (first second : List Task) :
    watcher.performAll (first ++ second) = (watcher.performAll first).performAll second :=
  List.foldl_append

/-- The workers for some actions are those for the first one and those for the others. -/
theorem workers_for_cons (action : Action) (actions : List Action) :
    workersFor (action :: actions) = workersFor [action] ++ workersFor actions :=
  List.filterMap_append (l := [action])

/-- Receiving as often as there are actions to receive starts all workers for them. -/
theorem perform_receives (watcher : Watcher) (hrunning : watcher.isRunning = true) :
    watcher.performAll (.replicate watcher.inbox.length .receive) =
      { watcher with inbox := [], workers := watcher.workers ++ workersFor watcher.inbox } := by
  cases watcher with
  | mk inbox workers outcomes isRunning isHeard =>
    subst hrunning
    induction inbox generalizing workers with
    | nil => simp [performAll, workersFor]
    | cons action inbox ih =>
        have hrest := ih (workers ++ workersFor [action])
        simp only [performAll, List.length_cons, List.replicate_succ, List.foldl_cons, perform,
          receive, if_true] at hrest ⊢
        rw [hrest, List.append_assoc, ← workers_for_cons]

/-- The worker whose turn it is asks next, after those before it. -/
theorem modify_asks (workers : List Worker) (count : Nat) :
    (workers.mapIdx fun index worker => if index < count then worker.ask else worker).modify count
        Worker.ask =
      workers.mapIdx fun index worker => if index < count + 1 then worker.ask else worker := by
  apply List.ext_getElem?
  intro index
  rw [List.getElem?_modify, List.getElem?_mapIdx, List.getElem?_mapIdx]
  cases workers[index]? with
  | none => rfl
  | some worker =>
      rcases Nat.lt_trichotomy index count with hlt | heq | hgt
      · simp [hlt, Nat.lt_succ_of_lt hlt, (Nat.ne_of_lt hlt).symm]
      · simp [heq]
      · simp [Nat.not_lt_of_gt hgt, Nat.ne_of_lt hgt, Nat.not_lt_of_ge hgt]

/-- Letting workers ask in turn lets each of them ask once, up to the last one whose turn it was. -/
theorem perform_asks (watcher : Watcher) (hrunning : watcher.isRunning = true) (count : Nat) :
    watcher.performAll ((List.range count).map .ask) =
      { watcher with
        workers := watcher.workers.mapIdx fun index worker =>
          if index < count then worker.ask else worker } := by
  induction count with
  | zero =>
      have hnone : (watcher.workers.mapIdx fun index worker =>
          if index < 0 then worker.ask else worker) = watcher.workers := by
        apply List.ext_getElem <;> simp
      simp only [List.range_zero, List.map_nil, hnone]
      rfl
  | succ count ih =>
      rw [List.range_succ, List.map_append, perform_all_append, ih]
      simp only [List.map_cons, List.map_nil, performAll, List.foldl_cons, List.foldl_nil, perform,
        ask, hrunning, if_true, modify_asks]

/-- Letting the watcher and all workers go on until they have to wait is performing tasks. -/
theorem settle_eq_perform (watcher : Watcher) (hrunning : watcher.isRunning = true) :
    watcher.settle =
      watcher.performAll (.replicate watcher.inbox.length .receive ++
        (List.range (watcher.workers ++ workersFor watcher.inbox).length).map .ask) := by
  have hall : ∀ workers : List Worker,
      (workers.mapIdx fun index worker => if index < workers.length then worker.ask else worker) =
        workers.map Worker.ask := by
    intro workers
    apply List.ext_getElem
    · simp
    · simp +contextual
  rw [perform_all_append, perform_receives watcher hrunning, perform_asks]
  · simp only [settle, hrunning, if_true, hall]
  · exact hrunning

end Watcher

namespace Store

/-- The store after a move. -/
def step (store : Store) : Move → Store
  | .dispatch action => store.dispatch action
  | .process => store.process
  | .next => store.next.2
  | .work task => { store with watcher := store.watcher.perform task }

/-- What happens in a move. -/
def occurrences (store : Store) : Move → List Occurrence
  | .dispatch action => [.dispatched action]
  | .process => store.watcher.outcomes.map .applied
  | .next => (store.watcher.outcomes.take 1).map .applied
  | .work task => store.watcher.occurrences task

/-- The store after several moves. -/
def run (store : Store) (moves : List Move) : Store :=
  moves.foldl step store

/-- What happens in several moves, in this order. -/
def history (store : Store) : List Move → List Occurrence
  | [] => []
  | move :: moves => store.occurrences move ++ (store.step move).history moves

/-- Where no outcome has arrived there is none to apply. -/
theorem process_of_none {store : Store} (hnone : store.watcher.outcomes = []) :
    store.process = store := by
  rw [process, hnone, Feed.run_nil, ← hnone]

/-- Moves made one after the other are one run. -/
theorem run_append (store : Store) (first second : List Move) :
    store.run (first ++ second) = (store.run first).run second :=
  List.foldl_append

/-- The history of a run that goes on goes on. -/
theorem history_append (store : Store) (first second : List Move) :
    store.history (first ++ second) =
      store.history first ++ (store.run first).history second := by
  induction first generalizing store with
  | nil => rfl
  | cons move first ih =>
      simp only [List.cons_append, history, ih, List.append_assoc]
      rfl

/-- What holds at first and is kept by every move holds after every run. -/
theorem run_induction {Holds : Store → List Occurrence → Prop} (start : Holds {} [])
    (step : ∀ store past move, Holds store past →
      Holds (store.step move) (past ++ store.occurrences move))
    (moves : List Move) : Holds (run {} moves) (history {} moves) := by
  induction moves using List.reverseRecOn with
  | nil => exact start
  | append_singleton moves move ih =>
      rw [run_append, history_append]
      simpa [run, history] using step _ _ move ih

end Store

end CatalogView.Slack
