import CatalogView.Proofs.Store.Run

/-!
# What a live store can do

`Store.Turn` lists what can happen at one time to a store whose watcher and workers are running:
what it takes, what occurs, and what the store is afterwards. `Store.step_turn` says that every move
is such a turn or none at all, and `Store.run_turns` proves by it what holds of all runs.
-/

namespace CatalogView.Slack

open Watcher

/-- Putting back into a list what differs only where `view` does not look. -/
theorem map_set_of_eq {α β : Type} {items : List α} {index : Nat} {item other : α}
    (view : α → β) (hitem : items[index]? = some item) (hview : view other = view item) :
    (items.set index other).map view = items.map view := by
  obtain ⟨hlt, rfl⟩ := List.getElem?_eq_some_iff.1 hitem
  rw [List.map_set, hview, ← List.getElem_map view (h := by simpa using hlt), List.set_getElem_self]

/-- What is said of an item, if it is there, is not changed by such an item either. -/
theorem elim_set_of_eq {α β : Type} {items : List α} {index : Nat} {item other : α} (none : β)
    (view : α → β) (hitem : items[index]? = some item) (hview : view other = view item)
    (place : Nat) :
    (items.set index other)[place]?.elim none view = items[place]?.elim none view := by
  have hplace := congrArg (fun views => views[place]?.elim none id) (map_set_of_eq view hitem hview)
  simpa only [List.getElem?_map, Option.elim_map, Function.id_comp] using hplace

/-- Changing an item of a list is putting the changed item there. -/
theorem modify_eq_set_of_eq {α : Type} {items : List α} {index : Nat} {item : α}
    (change : α → α) (hitem : items[index]? = some item) :
    items.modify index change = items.set index (change item) := by
  apply List.ext_getElem?
  intro other
  rw [List.getElem?_modify, List.getElem?_set]
  by_cases heq : index = other
  · subst heq
    obtain ⟨hlt, rfl⟩ := List.getElem?_eq_some_iff.1 hitem
    simp [hlt]
  · simp [heq]

namespace Store

/-- The watcher and its workers run, outcomes are heard, and only requests wait to be received. -/
structure Live (store : Store) : Prop where
  running : store.watcher.isRunning = true
  heard : store.watcher.isHeard = true
  requests : ∀ action ∈ store.watcher.inbox, ∃ key, action = .request key

/-- What can happen to a live store in one turn. -/
inductive Turn (store : Store) : List Occurrence → Store → Prop where
  | idle : Turn store [] store
  | request (key) :
      Turn store [.dispatched (.request key)]
        { feed := store.feed.reduce (.request key)
          watcher := { store.watcher with inbox := store.watcher.inbox ++ [.request key] } }
  | dispatch (action) :
      action.requestKey? = none →
      Turn store [.dispatched action] { store with feed := store.feed.reduce action }
  | take (taken outcomes) :
      store.watcher.outcomes = taken ++ outcomes →
      Turn store (taken.map .applied)
        { feed := store.feed.run taken, watcher := { store.watcher with outcomes } }
  | receive (key inbox) :
      store.watcher.inbox = .request key :: inbox →
      Turn store [.started key]
        { store with watcher :=
          { store.watcher with inbox, workers := store.watcher.workers ++ [{ key }] } }
  | ask (index worker) :
      store.watcher.workers[index]? = some worker → worker.phase = .started →
      Turn store [.asked index worker.key]
        { store with watcher :=
          { store.watcher with
            workers := store.watcher.workers.set index { worker with phase := .fetching } } }
  | finish (index worker outcome) :
      store.watcher.workers[index]? = some worker → worker.phase = .fetching →
      Turn store [.finished index outcome]
        { store with watcher :=
          { store.watcher with
            workers := store.watcher.workers.set index { worker with phase := .finished }
            outcomes := store.watcher.outcomes ++ [.ofOutcome outcome] } }

/-- Dispatching is a turn. -/
theorem dispatch_turn {store : Store} (hlive : store.Live) (action : Action) :
    Turn store [.dispatched action] (store.dispatch action) := by
  cases action with
  | request key =>
      have hsend : store.watcher.send (.request key) =
          { store.watcher with inbox := store.watcher.inbox ++ [.request key] } := by
        simp [send, hlive.running]
      simpa only [dispatch, hsend] using Turn.request key
  | success payload | failure payload | other kind =>
      exact Turn.dispatch _ rfl

/-- Receiving is a turn, and nothing happens where nothing is to be received. -/
theorem receive_turn {store : Store} (hlive : store.Live) :
    Turn store (store.watcher.occurrences .receive)
      { store with watcher := store.watcher.receive } := by
  cases hinbox : store.watcher.inbox with
  | nil => simpa [Watcher.occurrences, receive, hinbox, workersFor] using @Turn.idle store
  | cons action inbox =>
      obtain ⟨key, rfl⟩ := hlive.requests action (by simp [hinbox])
      simpa [Watcher.occurrences, receive, hinbox, hlive.running, workersFor,
        Action.requestKey?] using Turn.receive key inbox hinbox

/-- Asking is a turn of a worker that has not asked yet, and no other worker asks. -/
theorem ask_turn {store : Store} (hlive : store.Live) (index : Nat) :
    Turn store (store.watcher.occurrences (.ask index))
      { store with watcher := store.watcher.ask index } := by
  cases hworker : store.watcher.workers[index]? with
  | none =>
      have hsame : store.watcher.workers.modify index Worker.ask = store.watcher.workers :=
        List.modify_eq_self (List.getElem?_eq_none_iff.1 hworker)
      simpa [Watcher.occurrences, ask, hworker, hsame] using @Turn.idle store
  | some worker =>
      have hset := modify_eq_set_of_eq Worker.ask hworker
      cases hphase : worker.phase with
      | started =>
          simpa [Watcher.occurrences, ask, hworker, hset, hlive.running, hphase, Worker.ask,
            Option.filter_some] using
            Turn.ask index worker hworker hphase
      | fetching | finished =>
          have hsame : store.watcher.workers.set index worker = store.watcher.workers := by
            obtain ⟨hlt, rfl⟩ := List.getElem?_eq_some_iff.1 hworker
            exact List.set_getElem_self hlt
          simpa [Watcher.occurrences, ask, hworker, hset, hphase, Worker.ask, hsame,
            Option.filter_some] using @Turn.idle store

/-- The end of a fetch is a turn if the fetch is under way, and no other fetch ends. -/
theorem finish_turn {store : Store} (hlive : store.Live) (index : Nat)
    (outcome : Except Failure Payload) :
    Turn store (store.watcher.occurrences (.finish index outcome))
      { store with watcher := store.watcher.finish index outcome } := by
  cases hpending : store.watcher.isPending index with
  | false => simpa [Watcher.occurrences, Watcher.finish, hpending] using @Turn.idle store
  | true =>
      obtain ⟨worker, hworker, hphase⟩ : ∃ worker, store.watcher.workers[index]? = some worker ∧
          worker.phase = .fetching := by
        simpa [isPending, hlive.running, Option.any_eq_true] using hpending
      have hset := modify_eq_set_of_eq ({ · with phase := Phase.finished }) hworker
      simpa [Watcher.occurrences, Watcher.finish, hpending, hset, hlive.heard] using
        Turn.finish index worker outcome hworker hphase

/-- Every move of a live store is a turn. -/
theorem step_turn {store : Store} (hlive : store.Live) (move : Move) :
    Turn store (store.occurrences move) (store.step move) := by
  cases move with
  | dispatch action => exact dispatch_turn hlive action
  | process =>
      exact Turn.take store.watcher.outcomes [] (by simp)
  | next =>
      cases houtcomes : store.watcher.outcomes with
      | nil => simpa [Store.occurrences, step, next, houtcomes] using @Turn.idle store
      | cons outcome outcomes =>
          simpa [Store.occurrences, step, next, houtcomes] using
            Turn.take [outcome] outcomes (by simpa using houtcomes)
  | work task =>
      cases task with
      | receive => exact receive_turn hlive
      | ask index => exact ask_turn hlive index
      | finish index outcome => exact finish_turn hlive index outcome

/-- A live store stays live. -/
theorem Turn.live {store next : Store} {occurring : List Occurrence}
    (hturn : Turn store occurring next) (hlive : store.Live) : next.Live := by
  obtain ⟨hrunning, hheard, hrequests⟩ := hlive
  cases hturn with
  | idle => exact ⟨hrunning, hheard, hrequests⟩
  | request key =>
      refine ⟨hrunning, hheard, ?_⟩
      intro action hmem
      rcases List.mem_append.1 hmem with hmem | hmem
      · exact hrequests action hmem
      · exact ⟨key, List.mem_singleton.1 hmem⟩
  | dispatch | take | ask | finish => exact ⟨hrunning, hheard, hrequests⟩
  | receive key inbox hinbox =>
      exact ⟨hrunning, hheard, fun action hmem => hrequests action (by simp [hinbox, hmem])⟩

/-- What holds at first and is kept by every turn of a live store holds after every run. -/
theorem run_turns {Holds : Store → List Occurrence → Prop} (start : Holds {} [])
    (turn : ∀ {store past occurring next}, Live store → Holds store past →
      Turn store occurring next → Holds next (past ++ occurring))
    (moves : List Move) : Holds (run {} moves) (history {} moves) := by
  have hboth : Live (run {} moves) ∧ Holds (run {} moves) (history {} moves) := by
    refine @run_induction (fun store past => store.Live ∧ Holds store past) ?_ ?_ moves
    · exact ⟨⟨rfl, rfl, by simp⟩, start⟩
    · intro store past move ⟨hlive, hpast⟩
      have hturn := step_turn hlive move
      exact ⟨hturn.live hlive, turn hlive hpast hturn⟩
  exact hboth.2

end Store

end CatalogView.Slack
