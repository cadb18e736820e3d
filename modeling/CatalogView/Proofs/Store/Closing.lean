import CatalogView.Proofs.Store.Requested
import CatalogView.Proofs.Store.Stopped
import CatalogView.Slack.Watch

/-!
# What is lost when channels close

A channel can close while requests wait, fetches are under way and outcomes are queued.
`Watch.Books` ties a watcher that can be closed to what has happened, at every moment of a run:
closing it takes nothing away from what was sent before, and what keeps the channel of outcomes open
are the watcher and its workers. `closing_loses_unfinished_only` says so, and that stopping the
tasks of a store takes away the fetches that have not ended and nothing else.
-/

namespace CatalogView.Slack

namespace Watch

/-- A turn in a run of a watcher on its own. -/
inductive Move where
  | send (action : Action)
  | close
  | work (task : Task)
  | take

/-- The watcher after a task. -/
def perform (watch : Watch) : Task → Watch
  | .receive => watch.receive
  | .ask index => watch.ask index
  | .finish index outcome => watch.finish index outcome

/-- The watcher after several tasks. -/
def performAll (watch : Watch) (tasks : List Task) : Watch :=
  tasks.foldl perform watch

/-- The watcher after a move. -/
def step (watch : Watch) : Move → Watch
  | .send action => watch.send action
  | .close => watch.close
  | .work task => watch.perform task
  | .take => watch.next.2

/-- What happens in a move. An action that is sent counts as dispatched, and an outcome that is
taken as applied. -/
def occurrences (watch : Watch) : Move → List Occurrence
  | .send action => if watch.isOpen then [.dispatched action] else []
  | .close => []
  | .work task => watch.watcher.occurrences task
  | .take => (watch.watcher.outcomes.take 1).map .applied

/-- The watcher after several moves. -/
def run (watch : Watch) (moves : List Move) : Watch :=
  moves.foldl step watch

/-- What happens in several moves, in this order. -/
def history (watch : Watch) : List Move → List Occurrence
  | [] => []
  | move :: moves => watch.occurrences move ++ (watch.step move).history moves

/-- Moves made one after the other are one run. -/
theorem run_append (watch : Watch) (first second : List Move) :
    watch.run (first ++ second) = (watch.run first).run second :=
  List.foldl_append

/-- The history of a run that goes on goes on. -/
theorem history_append (watch : Watch) (first second : List Move) :
    watch.history (first ++ second) =
      watch.history first ++ (watch.run first).history second := by
  induction first generalizing watch with
  | nil => rfl
  | cons move first ih =>
      simp only [List.cons_append, history, ih, List.append_assoc]
      rfl

/-! ## The books of a watcher -/

/-- What a watcher holds and what has happened agree. -/
structure Books (watch : Watch) (past : List Occurrence) : Prop where
  running : watch.watcher.isRunning = true
  heard : watch.watcher.isHeard = true
  requested : watch.watcher.requested = requests past
  starts : starts past = watch.watcher.workers.map (·.key)
  asks : ∀ index, asks index past = watch.watcher.workers[index]?.elim [] Worker.asked
  finishes : ∀ index, ((finishes past).filter (·.1 = index)).length =
    watch.watcher.workers[index]?.elim 0 Worker.ended
  outcomes : applied past ++ watch.watcher.outcomes =
    (Slack.finishes past).map fun fetch => .ofOutcome fetch.2
  /-- The watcher ends when its channel is closed and empty. -/
  ended : watch.isOver = true → watch.isOpen = false ∧ watch.watcher.inbox = []

variable {watch : Watch} {past : List Occurrence}

/-- What is sent waits to be received. -/
theorem Books.send (h : Books watch past) (action : Action) :
    Books (watch.send action) (past ++ watch.occurrences (.send action)) := by
  cases hopen : watch.isOpen with
  | false => simpa [Watch.send, occurrences, hopen] using h
  | true =>
      have hsend : watch.watcher.send action =
          { watch.watcher with inbox := watch.watcher.inbox ++ [action] } := by
        simp [Watcher.send, h.running]
      have hrequested := h.requested
      unfold Watcher.requested at hrequested
      simp only [Watch.send, occurrences, hopen, if_true, hsend]
      refine ⟨h.running, h.heard, ?_, ?_, fun index => ?_, fun index => ?_, ?_, fun hover => ?_⟩
      · simp [Watcher.requested, ← hrequested, List.filterMap_cons, Occurrence.requested?]
      · simpa [List.filterMap_cons] using h.starts
      · simpa [List.filterMap_cons] using h.asks index
      · simpa [List.filterMap_cons] using h.finishes index
      · simpa [List.filterMap_cons] using h.outcomes
      · exact absurd ((h.ended hover).1.symm.trans hopen) Bool.false_ne_true

/-- What was sent is still there when the channel is closed. -/
theorem Books.close (h : Books watch past) : Books watch.close past :=
  { h with ended := fun hover => ⟨rfl, (h.ended hover).2⟩ }

/-- What waits is received in its order, and the watcher goes on until nothing does. -/
theorem Books.receive (h : Books watch past) :
    Books watch.receive (past ++ watch.watcher.occurrences .receive) := by
  cases hinbox : watch.watcher.inbox with
  | nil =>
      have hsame : watch.watcher.receive = watch.watcher := by simp [Watcher.receive, hinbox]
      have hnothing : watch.watcher.occurrences .receive = [] := by
        simp [Watcher.occurrences, hinbox, Watcher.workersFor]
      rw [hnothing, List.append_nil]
      simp only [Watch.receive, hsame, hinbox]
      refine { h with ended := fun hover => ⟨?_, hinbox⟩ }
      simp only [h.running, List.isEmpty_nil, Bool.true_and, Bool.and_true, Bool.or_eq_true,
        Bool.not_eq_true'] at hover
      exact hover.elim (fun hover => (h.ended hover).1) id
  | cons action inbox =>
      have hreceive : watch.watcher.receive =
          { watch.watcher with
            inbox, workers := watch.watcher.workers ++ Watcher.workersFor [action] } := by
        simp [Watcher.receive, h.running, hinbox]
      have hnotOver : watch.isOver = false := by
        cases hover : watch.isOver with
        | false => rfl
        | true => exact absurd (hinbox.symm.trans (h.ended hover).2) (List.cons_ne_nil _ _)
      have hoccurrences : watch.watcher.occurrences .receive =
          (Watcher.workersFor [action]).map fun worker => .started worker.key := by
        simp [Watcher.occurrences, h.running, hinbox]
      have hrequested := h.requested
      unfold Watcher.requested at hrequested
      rw [hoccurrences]
      simp only [Watch.receive, hreceive, hinbox, hnotOver]
      -- an action starts a worker if it is a request, and else nothing is left of it
      cases hkey : action.requestKey? with
      | none =>
          have hnone : Watcher.workersFor [action] = [] := by simp [Watcher.workersFor, hkey]
          simp only [hnone, List.append_nil, List.map_nil]
          refine { h with requested := ?_, ended := by simp }
          simpa [Watcher.requested, hinbox, List.filterMap_cons, hkey] using hrequested
      | some key =>
          have hone : Watcher.workersFor [action] = [{ key }] := by
            simp [Watcher.workersFor, hkey]
          simp only [hone, List.map_cons, List.map_nil]
          refine ⟨h.running, h.heard, ?_, ?_, fun index => ?_, fun index => ?_, ?_, by simp⟩
          · simpa [Watcher.requested, hinbox, List.filterMap_cons, hkey] using hrequested
          · simpa using h.starts
          · show _ = (watch.watcher.workers ++ [_])[index]?.elim [] Worker.asked
            rw [getElem?_append_elim]
            · simpa [List.filterMap_cons] using h.asks index
            · rfl
          · show _ = (watch.watcher.workers ++ [_])[index]?.elim 0 Worker.ended
            rw [getElem?_append_elim]
            · simpa [List.filterMap_cons] using h.finishes index
            · rfl
          · simpa [List.filterMap_cons] using h.outcomes

/-- A store with the workers and the outcomes of a watcher, for which nothing waits. -/
def workers (watcher : Watcher) : Store :=
  { watcher := { watcher with inbox := [] } }

/-- What a worker does keeps the books, whatever waits meanwhile. -/
theorem Books.work {next : Watcher} {occurring : List Occurrence} (h : Books watch past)
    (hturn : Store.Turn (workers watch.watcher) occurring (workers next))
    (hinbox : next.inbox = watch.watcher.inbox) (hrunning : next.isRunning = true)
    (hheard : next.isHeard = true) (hrequests : requests occurring = [])
    (hstarts : Slack.starts occurring = []) :
    Books { watch with watcher := next } (past ++ occurring) := by
  have hkept : Slack.starts (past ++ occurring) = next.workers.map (·.key) :=
    hturn.starts_kept h.starts
  refine ⟨hrunning, hheard, ?_, hkept, hturn.asks_kept h.asks, hturn.finishes_kept h.finishes,
    hturn.outcomes_kept h.outcomes, fun hover => ?_⟩
  · have hsame : next.workers.map (·.key) = watch.watcher.workers.map (·.key) := by
      rw [← hkept, ← h.starts]
      simp [hstarts]
    have hrequested : requests (past ++ occurring) = requests past := by simp [hrequests]
    rw [hrequested, ← h.requested]
    simp only [Watcher.requested, hsame, hinbox]
  · exact ⟨(h.ended hover).1, hinbox.trans (h.ended hover).2⟩

/-- A worker asks. -/
theorem Books.ask (h : Books watch past) (index : Nat) :
    Books (watch.ask index) (past ++ watch.watcher.occurrences (.ask index)) := by
  have hlive : (workers watch.watcher).Live := ⟨h.running, h.heard, nofun⟩
  have hnext : workers (watch.watcher.ask index) =
      { workers watch.watcher with watcher := (workers watch.watcher).watcher.ask index } := by
    simp [workers, Watcher.ask, h.running]
  have hturn := Store.ask_turn hlive index
  rw [← hnext] at hturn
  have hsilent : ∀ occurrence ∈ watch.watcher.occurrences (.ask index),
      occurrence.requested? = none ∧ occurrence.started? = none := by
    intro occurrence hmem
    simp only [Watcher.occurrences, h.running, if_true] at hmem
    obtain ⟨worker, -, rfl⟩ := List.mem_map.1 hmem
    exact ⟨rfl, rfl⟩
  have hsame : (watch.watcher.ask index).inbox = watch.watcher.inbox ∧
      (watch.watcher.ask index).isRunning = true ∧ (watch.watcher.ask index).isHeard = true := by
    simp [Watcher.ask, h.running, h.heard]
  exact h.work hturn hsame.1 hsame.2.1 hsame.2.2
    (List.filterMap_eq_nil_iff.2 fun occurrence hmem => (hsilent occurrence hmem).1)
    (List.filterMap_eq_nil_iff.2 fun occurrence hmem => (hsilent occurrence hmem).2)

/-- The fetch of a worker ends. -/
theorem Books.finish (h : Books watch past) (index : Nat) (outcome : Except Failure Payload) :
    Books (watch.finish index outcome)
      (past ++ watch.watcher.occurrences (.finish index outcome)) := by
  have hlive : (workers watch.watcher).Live := ⟨h.running, h.heard, nofun⟩
  have hnext : workers (watch.watcher.finish index outcome) =
      { workers watch.watcher with
        watcher := (workers watch.watcher).watcher.finish index outcome } := by
    have hsame : (workers watch.watcher).watcher.isPending index =
        watch.watcher.isPending index := rfl
    by_cases hpending : watch.watcher.isPending index
    · rw [Watcher.finish, if_pos hpending, Watcher.finish, if_pos (hsame.trans hpending)]
      rfl
    · rw [Watcher.finish, if_neg hpending, Watcher.finish, if_neg (hsame ▸ hpending)]
  have hturn := Store.finish_turn hlive index outcome
  rw [← hnext] at hturn
  have hsilent : ∀ occurrence ∈ watch.watcher.occurrences (.finish index outcome),
      occurrence.requested? = none ∧ occurrence.started? = none := by
    intro occurrence hmem
    simp only [Watcher.occurrences] at hmem
    split at hmem
    · obtain rfl := List.mem_singleton.1 hmem
      exact ⟨rfl, rfl⟩
    · cases hmem
  have hsame : (watch.watcher.finish index outcome).inbox = watch.watcher.inbox ∧
      (watch.watcher.finish index outcome).isRunning = true ∧
      (watch.watcher.finish index outcome).isHeard = true := by
    unfold Watcher.finish
    split <;> exact ⟨rfl, h.running, h.heard⟩
  exact h.work hturn hsame.1 hsame.2.1 hsame.2.2
    (List.filterMap_eq_nil_iff.2 fun occurrence hmem => (hsilent occurrence hmem).1)
    (List.filterMap_eq_nil_iff.2 fun occurrence hmem => (hsilent occurrence hmem).2)

/-- The first outcome is taken. -/
theorem Books.take (h : Books watch past) :
    Books watch.next.2 (past ++ watch.occurrences .take) := by
  cases houtcomes : watch.watcher.outcomes with
  | nil => simpa [Watch.next, occurrences, houtcomes] using h
  | cons outcome outcomes =>
      have hkept := h.outcomes
      simp only [Watch.next, occurrences, houtcomes]
      refine ⟨h.running, h.heard, ?_, ?_, fun index => ?_, fun index => ?_, ?_, h.ended⟩
      · simpa [List.filterMap_cons, Watcher.requested] using h.requested
      · simpa [List.filterMap_cons] using h.starts
      · simpa [List.filterMap_cons] using h.asks index
      · simpa [List.filterMap_cons] using h.finishes index
      · simpa [List.filterMap_cons, houtcomes] using hkept

/-- Every move keeps the books. -/
theorem Books.step (h : Books watch past) (move : Move) :
    Books (watch.step move) (past ++ watch.occurrences move) := by
  cases move with
  | send action => exact h.send action
  | close =>
      show Books watch.close (past ++ [])
      rw [List.append_nil]
      exact h.close
  | work task =>
      cases task with
      | receive => exact h.receive
      | ask index => exact h.ask index
      | finish index outcome => exact h.finish index outcome
  | take => exact h.take

/-- The books agree at every moment of a run. -/
theorem run_books (moves : List Move) : Books (run {} moves) (history {} moves) := by
  induction moves using List.reverseRecOn with
  | nil => constructor <;> simp [run, history, Watcher.requested]
  | append_singleton moves move ih =>
      rw [run_append, history_append]
      simpa [run, history] using ih.step move

/-! ## The end of a watcher -/

/-- Tasks change the watcher as if its channel could not close. They leave the channel as it is, and
what has ended has ended. -/
theorem perform_all_watcher (watch : Watch) (tasks : List Task) :
    (watch.performAll tasks).watcher = watch.watcher.performAll tasks ∧
      (watch.performAll tasks).isOpen = watch.isOpen ∧
      (watch.isOver = true → (watch.performAll tasks).isOver = true) := by
  induction tasks generalizing watch with
  | nil => exact ⟨rfl, rfl, id⟩
  | cons task tasks ih =>
      obtain ⟨hwatcher, hopen, hover⟩ := ih (watch.perform task)
      have hstep : (watch.perform task).watcher = watch.watcher.perform task ∧
          (watch.perform task).isOpen = watch.isOpen ∧
          (watch.isOver = true → (watch.perform task).isOver = true) := by
        cases task with
        | receive => exact ⟨rfl, rfl, fun hbefore => by simp [perform, Watch.receive, hbefore]⟩
        | ask | finish => exact ⟨rfl, rfl, id⟩
      rw [hstep.1] at hwatcher
      exact ⟨hwatcher, hopen.trans hstep.2.1, fun hbefore => hover (hstep.2.2 hbefore)⟩

/-- The tasks that are due when a watcher is closed: it receives what has been sent and ends, and
the workers ask. -/
def lastTasks (watcher : Watcher) : List Task :=
  .replicate watcher.inbox.length .receive ++
    .receive :: (List.range (watcher.workers ++ Watcher.workersFor watcher.inbox).length).map .ask

/-- They bring the watcher to its end, and no further than it gets when it goes on until it has to
wait. -/
theorem perform_last_tasks (hrunning : watch.watcher.isRunning = true)
    (hclosed : watch.isOpen = false) :
    watch.performAll (lastTasks watch.watcher) =
      { watcher := watch.watcher.settle, isOpen := false, isOver := true } := by
  have hreceived := Watcher.perform_receives watch.watcher hrunning
  obtain ⟨hwatcher, hopen, -⟩ := perform_all_watcher watch (lastTasks watch.watcher)
  -- the turn in which the watcher learns that nothing can come changes nothing else
  have hsettled : watch.watcher.performAll (lastTasks watch.watcher) = watch.watcher.settle := by
    rw [Watcher.settle_eq_perform _ hrunning, lastTasks, Watcher.perform_all_append,
      Watcher.perform_all_append, hreceived]
    simp [Watcher.performAll, Watcher.perform, Watcher.receive]
  have hover : (watch.performAll (lastTasks watch.watcher)).isOver = true := by
    obtain ⟨hbefore, hstill, -⟩ :=
      perform_all_watcher watch (.replicate watch.watcher.inbox.length .receive)
    rw [hreceived] at hbefore
    rw [lastTasks, performAll, List.foldl_append, List.foldl_cons]
    refine (perform_all_watcher _ _).2.2 ?_
    show (Watch.receive (watch.performAll _)).isOver = true
    simp [Watch.receive, hbefore, hstill, hclosed, hrunning]
  rw [hsettled] at hwatcher
  rw [hclosed] at hopen
  generalize watch.performAll (lastTasks watch.watcher) = last at hwatcher hopen hover
  cases last with
  | mk watcher isOpen isOver =>
      cases hwatcher
      cases hopen
      cases hover
      rfl

/-- A fetch that has not ended can end, and its outcome arrives. -/
theorem outcomes_finish_ask {watcher : Watcher} (hrunning : watcher.isRunning = true)
    (hheard : watcher.isHeard = true) {index : Nat} {worker : Worker}
    (hworker : watcher.workers[index]? = some worker) (hphase : worker.phase ≠ .finished)
    (outcome : Except Failure Payload) :
    ((watcher.ask index).finish index outcome).outcomes =
      watcher.outcomes ++ [.ofOutcome outcome] := by
  have hasked : worker.ask.phase = .fetching := by
    cases hbefore : worker.phase with
    | finished => exact absurd hbefore hphase
    | started | fetching => simp [Worker.ask, hbefore]
  have hask : watcher.ask index =
      { watcher with workers := watcher.workers.modify index Worker.ask } := by
    simp [Watcher.ask, hrunning]
  have hpending : (watcher.ask index).isPending index = true := by
    simp [hask, Watcher.isPending, hrunning, hworker, hasked]
  rw [Watcher.finish, if_pos hpending, hask]
  simp [hheard]

/-- Nobody can send an outcome any more when the watcher and all fetches have ended. -/
theorem senders_eq_zero_iff (hrunning : watch.watcher.isRunning = true) :
    watch.senders = 0 ↔
      watch.isOver = true ∧ ∀ worker ∈ watch.watcher.workers, worker.phase = .finished := by
  cases hover : watch.isOver <;> simp [senders, hrunning, hover]

/-- For one who takes outcomes the channel is closed when none is left and nobody can send one. -/
theorem next_eq_closed_iff (watch : Watch) :
    watch.next.1 = .closed ↔ watch.watcher.outcomes = [] ∧ watch.senders = 0 := by
  cases houtcomes : watch.watcher.outcomes with
  | nil => by_cases hsenders : watch.senders = 0 <;> simp [next, houtcomes, hsenders]
  | cons outcome outcomes => simp [next, houtcomes]

end Watch

/-! ## Stores -/

namespace Store

/-- What there is to take from a store is what there is to take from its watcher, to whose channel
the store holds the sending end. -/
theorem next_eq_watch_next (store : Store) : store.next.1 = store.watch.next.1 := by
  cases houtcomes : store.watcher.outcomes with
  | nil =>
      cases hrunning : store.watcher.isRunning <;>
        simp [next, Watch.next, watch, Watch.senders, houtcomes, hrunning]
  | cons outcome outcomes => simp [next, Watch.next, watch, houtcomes]

/-- For one who takes outcomes from a store the channel is closed when none is left and the tasks
were stopped. -/
theorem next_eq_closed_iff (store : Store) :
    store.next.1 = .closed ↔ store.watcher.outcomes = [] ∧ store.watcher.isRunning = false := by
  cases houtcomes : store.watcher.outcomes with
  | nil => cases hrunning : store.watcher.isRunning <;> simp [next, houtcomes, hrunning]
  | cons outcome outcomes => simp [next, houtcomes]

/-- A fetch of a task that was stopped cannot end. -/
theorem finish_of_stopped {store : Store} (hstopped : store.watcher.isRunning = false)
    (index : Nat) (outcome : Except Failure Payload) : store.finish index outcome = store := by
  have hsame := (perform_of_stopped hstopped (.finish index outcome)).1
  exact congrArg (fun watcher => { store with watcher }) hsame

end Store

/-- While the tasks of a store go on, its channel of outcomes is never closed. When they are
stopped, what has arrived is still there to be applied, once and in its order. No fetch ends or
begins any more, the channel is closed once nothing is left in it, and the feed changes by what is
dispatched and applied alone. When only the channel of a watcher is closed, nothing is lost at all:
each request that was sent before gets its worker, in order, and then the watcher ends. Each worker
asks once, and its outcome arrives, whenever its fetch ends. -/
theorem closing_loses_unfinished_only (before after : List Move) (moves : List Watch.Move) :
    (let store := Store.run {} before
      let past := store.stop.history after
      let late := store.stop.run after
      -- as long as the tasks go on
      (store.next.1 ≠ .closed ∧
        (store.watcher.outcomes = [] → store.next = (.pending, store))) ∧
      -- what arrived before they were stopped
      applied past ++ late.watcher.outcomes = store.watcher.outcomes ∧
      -- what was under way
      (finishes past = [] ∧ starts past = [] ∧ (∀ index, asks index past = []) ∧
        late.watcher.calls = store.watcher.calls ∧
        ∀ index outcome, late.finish index outcome = late) ∧
      -- what there is to take
      (late.next.1 = .closed ↔ late.watcher.outcomes = []) ∧
      -- what changes the feed
      late.feed = store.feed.run (actions past) ∧
      ∀ action, late.dispatch action = { late with feed := late.feed.reduce action }) ∧
    (let watch := Watch.run {} moves
      let past := Watch.history {} moves
      -- each request gets a worker, all of them before the watcher ends
      (starts past <+: requests past ∧
        (watch.isOver = true → watch.isOpen = false ∧ starts past = requests past)) ∧
      -- the watcher ends once it is closed, and by then every worker can have asked
      (watch.isOpen = false →
        watch.performAll (Watch.lastTasks watch.watcher) =
            { watcher := watch.watcher.settle, isOpen := false, isOver := true } ∧
          watch.watcher.settle.calls = requests past) ∧
      -- each worker asks once and ends once, and its outcome arrives when it does
      ((∀ index, asks index past = watch.watcher.workers[index]?.elim [] Worker.asked ∧
          ((finishes past).filter (·.1 = index)).length =
            watch.watcher.workers[index]?.elim 0 Worker.ended) ∧
        applied past ++ watch.watcher.outcomes =
          (finishes past).map (fun fetch => .ofOutcome fetch.2) ∧
        ∀ index worker outcome, watch.watcher.workers[index]? = some worker →
          worker.phase ≠ .finished →
          ((watch.ask index).finish index outcome).watcher.outcomes =
            watch.watcher.outcomes ++ [.ofOutcome outcome]) ∧
      -- what there is to take
      (watch.next.1 = .closed ↔ watch.watcher.outcomes = [] ∧ watch.isOver = true ∧
        ∀ worker ∈ watch.watcher.workers, worker.phase = .finished)) := by
  constructor
  case left =>
    intro store past late
    have hrunning : store.watcher.isRunning = true := Store.run_running before
    have hlegacy : Store.Legacy store.stop late past := Store.run_legacy rfl after
    refine ⟨⟨?_, fun hnone => ?_⟩, hlegacy.outcomes,
      ⟨hlegacy.finishes, hlegacy.starts, hlegacy.asks, ?_,
        Store.finish_of_stopped hlegacy.running⟩, ?_, hlegacy.feed,
      Store.dispatch_of_stopped hlegacy.running⟩
    · rw [Ne, Store.next_eq_closed_iff, hrunning]
      simp
    · simp [Store.next, hnone, hrunning]
    · show (late.watcher.workers.filter _).map _ = _
      rw [hlegacy.workers]
      rfl
    · rw [Store.next_eq_closed_iff, hlegacy.running]
      simp
  case right =>
    intro watch past
    have hbooks : Watch.Books watch past := Watch.run_books moves
    have hrequested : starts past ++ watch.watcher.inbox.filterMap Action.requestKey? =
        requests past := by
      rw [hbooks.starts]
      exact hbooks.requested
    refine ⟨⟨⟨_, hrequested⟩, fun hover => ⟨(hbooks.ended hover).1, ?_⟩⟩,
      fun hclosed => ⟨Watch.perform_last_tasks hbooks.running hclosed, ?_⟩,
      ⟨fun index => ⟨hbooks.asks index, hbooks.finishes index⟩, hbooks.outcomes,
        fun index worker outcome hworker hphase =>
          Watch.outcomes_finish_ask hbooks.running hbooks.heard hworker hphase outcome⟩, ?_⟩
    · rw [← hrequested, (hbooks.ended hover).2, List.filterMap_nil, List.append_nil]
    · rw [(Watcher.settle_caught_up hbooks.running).calls, Watcher.settle_requested,
        hbooks.requested]
    · rw [Watch.next_eq_closed_iff, Watch.senders_eq_zero_iff hbooks.running]

end CatalogView.Slack
