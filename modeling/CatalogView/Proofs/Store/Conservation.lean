import CatalogView.Proofs.Store.Turn

/-!
# Nothing is lost, doubled or invented

Requests go from the store through the watcher to workers, and outcomes come back from them. The
books of a store are kept in its history: `Books` ties both at every moment of a run, whatever the
order of turns. `requests_and_outcomes_kept` reads off where each request is, which worker is
started for it and what its fetch leads to.
-/

namespace CatalogView.Slack

/-- The keys that a worker has asked for, by how far it is. -/
def Worker.asked (worker : Worker) : List String :=
  if worker.phase = .started then [] else [worker.key]

/-- The number of times that the fetch of a worker has ended, by how far the worker is. -/
def Worker.ended (worker : Worker) : Nat :=
  if worker.phase = .finished then 1 else 0

/-- The fetch of a worker has not ended. -/
def Worker.isUnfinished (worker : Worker) : Bool :=
  worker.phase ≠ .finished

/-- The number of fetches for which a worker has been started and that have not ended. -/
def Watcher.unfinished (watcher : Watcher) : Nat :=
  watcher.workers.countP Worker.isUnfinished

/-- An item added at the end that counts for nothing changes no item's count. -/
theorem getElem?_append_elim {α β : Type} (items : List α) (item : α) (none : β) (view : α → β)
    (hitem : view item = none) (index : Nat) :
    (items ++ [item])[index]?.elim none view = items[index]?.elim none view := by
  rcases Nat.lt_trichotomy index items.length with hlt | heq | hgt
  · rw [List.getElem?_append_left hlt]
  · simp [heq, hitem]
  · have hlength : (items ++ [item]).length ≤ index := by simpa using Nat.succ_le_of_lt hgt
    rw [List.getElem?_eq_none hlength, List.getElem?_eq_none (Nat.le_of_lt hgt)]

namespace Store

/-- What a store holds and what has happened agree. -/
structure Books (store : Store) (past : List Occurrence) : Prop where
  requests : (requests past).map Action.request =
    store.watcher.workers.map (fun worker => .request worker.key) ++ store.watcher.inbox
  starts : starts past = store.watcher.workers.map (·.key)
  asks : ∀ index, asks index past = store.watcher.workers[index]?.elim [] Worker.asked
  finishes : ∀ index, ((finishes past).filter (·.1 = index)).length =
    store.watcher.workers[index]?.elim 0 Worker.ended
  balance : (Slack.requests past).length = store.watcher.inbox.length + store.watcher.unfinished +
    store.watcher.outcomes.length + (applied past).length
  outcomes : applied past ++ store.watcher.outcomes =
    (Slack.finishes past).map fun fetch => .ofOutcome fetch.2
  feed : store.feed = Feed.run {} (actions past)

variable {store next : Store} {past occurring : List Occurrence}

/-- Requests are received in the order in which they are dispatched. -/
theorem Turn.requests_kept (hturn : Turn store occurring next)
    (h : (requests past).map Action.request =
      store.watcher.workers.map (fun worker => .request worker.key) ++ store.watcher.inbox) :
    (requests (past ++ occurring)).map Action.request =
      next.watcher.workers.map (fun worker => .request worker.key) ++ next.watcher.inbox := by
  cases hturn with
  | idle => simpa using h
  | request key => simp [h, Action.requestKey?]
  | dispatch action haction => simpa [haction] using h
  | take taken outcomes => simpa [Function.comp_def] using h
  | receive key inbox hinbox => simpa [List.filterMap_cons, hinbox] using h
  | ask index worker hworker | finish index worker outcome hworker =>
      simpa [List.filterMap_cons, -List.map_set, map_set_of_eq _ hworker] using h

/-- A worker is started when a request is received, and not otherwise. -/
theorem Turn.starts_kept (hturn : Turn store occurring next)
    (h : starts past = store.watcher.workers.map (·.key)) :
    starts (past ++ occurring) = next.watcher.workers.map (·.key) := by
  cases hturn with
  | idle | request | dispatch => simpa [List.filterMap_cons] using h
  | take taken outcomes => simpa [Function.comp_def] using h
  | receive key inbox hinbox => simpa using h
  | ask index worker hworker | finish index worker outcome hworker =>
      simpa [List.filterMap_cons, -List.map_set, map_set_of_eq _ hworker] using h

/-- A worker asks once, for its key. -/
theorem Turn.asks_kept (hturn : Turn store occurring next)
    (h : ∀ index, asks index past = store.watcher.workers[index]?.elim [] Worker.asked)
    (index : Nat) :
    asks index (past ++ occurring) = next.watcher.workers[index]?.elim [] Worker.asked := by
  have hindex := h index
  cases hturn with
  | idle | request | dispatch => simpa [List.filterMap_cons] using hindex
  | take taken outcomes => simpa [Function.comp_def] using hindex
  | receive key inbox hinbox =>
      rw [getElem?_append_elim]
      · simpa [List.filterMap_cons] using hindex
      · rfl
  | ask other worker hworker hphase =>
      by_cases hsame : other = index
      · subst hsame
        obtain ⟨hlt, -⟩ := List.getElem?_eq_some_iff.1 hworker
        have hnone : asks other past = [] := by
          rw [hindex, hworker]
          simp [Worker.asked, hphase]
        simp [hlt, hnone, Worker.asked]
      · simpa [hsame] using hindex
  | finish other worker outcome hworker hphase =>
      have hsame : Worker.asked { worker with phase := .finished } = worker.asked := by
        simp [Worker.asked, hphase]
      rw [elim_set_of_eq _ _ hworker hsame]
      simpa [List.filterMap_cons] using hindex

/-- The fetch of a worker ends once. -/
theorem Turn.finishes_kept (hturn : Turn store occurring next)
    (h : ∀ index, ((finishes past).filter (·.1 = index)).length =
      store.watcher.workers[index]?.elim 0 Worker.ended) (index : Nat) :
    ((finishes (past ++ occurring)).filter (·.1 = index)).length =
      next.watcher.workers[index]?.elim 0 Worker.ended := by
  have hindex := h index
  cases hturn with
  | idle | request | dispatch => simpa [List.filterMap_cons] using hindex
  | take taken outcomes => simpa [Function.comp_def] using hindex
  | receive key inbox hinbox =>
      rw [getElem?_append_elim]
      · simpa [List.filterMap_cons] using hindex
      · rfl
  | ask other worker hworker hphase =>
      have hsame : Worker.ended { worker with phase := .fetching } = worker.ended := by
        simp [Worker.ended, hphase]
      rw [elim_set_of_eq _ _ hworker hsame]
      simpa [List.filterMap_cons] using hindex
  | finish other worker outcome hworker hphase =>
      by_cases hsame : other = index
      · subst hsame
        obtain ⟨hlt, -⟩ := List.getElem?_eq_some_iff.1 hworker
        have hnone : ((finishes past).filter (·.1 = other)).length = 0 := by
          rw [hindex, hworker]
          simp [Worker.ended, hphase]
        simp [hlt, hnone, Worker.ended]
      · simpa [List.filterMap_cons, hsame] using hindex

/-- A request moves on from one place to the next. -/
theorem Turn.balance_kept (hturn : Turn store occurring next)
    (h : (requests past).length = store.watcher.inbox.length + store.watcher.unfinished +
      store.watcher.outcomes.length + (applied past).length) :
    (requests (past ++ occurring)).length = next.watcher.inbox.length + next.watcher.unfinished +
      next.watcher.outcomes.length + (applied (past ++ occurring)).length := by
  simp only [requests, applied, Watcher.unfinished, List.filterMap_append,
    List.length_append] at h ⊢
  cases hturn with
  | idle => simpa using h
  | request key =>
      simp [List.filterMap_cons, h, Action.requestKey?]
      omega
  | dispatch action haction => simpa [List.filterMap_cons, haction] using h
  | take taken outcomes houtcomes =>
      rw [houtcomes, List.length_append] at h
      simp [Function.comp_def, h]
      omega
  | receive key inbox hinbox =>
      rw [hinbox, List.length_cons] at h
      simp [List.filterMap_cons, h, Worker.isUnfinished]
      omega
  | ask index worker hworker hphase =>
      have hsame : Worker.isUnfinished { worker with phase := .fetching } =
          worker.isUnfinished := by
        simp [Worker.isUnfinished, hphase]
      have hcount := congrArg (List.countP id) (map_set_of_eq _ hworker hsame)
      rw [List.countP_map, List.countP_map, Function.id_comp] at hcount
      simpa [List.filterMap_cons, hcount] using h
  | finish index worker outcome hworker hphase =>
      obtain ⟨hlt, rfl⟩ := List.getElem?_eq_some_iff.1 hworker
      have hpos : 0 < store.watcher.workers.countP Worker.isUnfinished :=
        List.countP_pos_iff.2 ⟨_, List.getElem_mem hlt, by simp [Worker.isUnfinished, hphase]⟩
      simp [List.filterMap_cons, h, List.countP_set hlt, Worker.isUnfinished, hphase]
      omega

/-- Outcomes are queued in the order in which fetches end, and applied in the order in which they
are queued. -/
theorem Turn.outcomes_kept (hturn : Turn store occurring next)
    (h : applied past ++ store.watcher.outcomes =
      (finishes past).map fun fetch => .ofOutcome fetch.2) :
    applied (past ++ occurring) ++ next.watcher.outcomes =
      (finishes (past ++ occurring)).map fun fetch => .ofOutcome fetch.2 := by
  cases hturn with
  | idle | request | dispatch | receive | ask => simpa [List.filterMap_cons] using h
  | take taken outcomes houtcomes => simpa [Function.comp_def, houtcomes] using h
  | finish index worker outcome hworker hphase =>
      simp [List.filterMap_cons, ← h]

/-- The feed changes by what is dispatched and what is applied. -/
theorem Turn.feed_kept (hturn : Turn store occurring next)
    (h : store.feed = Feed.run {} (actions past)) :
    next.feed = Feed.run {} (actions (past ++ occurring)) := by
  cases hturn with
  | idle | receive | ask | finish => simpa [List.filterMap_cons] using h
  | request | dispatch => simp [h, Feed.run_append]
  | take taken outcomes houtcomes => simp [Function.comp_def, h, Feed.run_append]

/-- Every turn keeps the books. -/
theorem Turn.books (hturn : Turn store occurring next) (hbooks : Books store past) :
    Books next (past ++ occurring) where
  requests := hturn.requests_kept hbooks.requests
  starts := hturn.starts_kept hbooks.starts
  asks := hturn.asks_kept hbooks.asks
  finishes := hturn.finishes_kept hbooks.finishes
  balance := hturn.balance_kept hbooks.balance
  outcomes := hturn.outcomes_kept hbooks.outcomes
  feed := hturn.feed_kept hbooks.feed

/-- The books agree at every moment of a run. -/
theorem run_books (moves : List Move) : Books (run {} moves) (history {} moves) := by
  apply run_turns
  · constructor <;> simp [Watcher.unfinished]
  · intro store past occurring next _ hbooks hturn
    exact hturn.books hbooks

/-- At every moment of a run each request is at one place; workers are started for the requests in
their order and ask once; a fetch that ends leads to one outcome; and outcomes are applied once, in
the order in which the fetches end. -/
theorem requests_and_outcomes_kept (moves : List Move) :
    let store := run {} moves
    let past := history {} moves
    -- where the requests are
    ((Slack.requests past).length = store.watcher.inbox.length + store.watcher.unfinished +
      store.watcher.outcomes.length + (applied past).length) ∧
    -- which workers are started, and what each of them asks
    (Slack.starts past = store.watcher.workers.map (·.key) ∧
      (∀ (index : Nat) (key : String), (Slack.starts past)[index]? = some key →
        (Slack.requests past)[index]? = some key) ∧
      (∀ index, Slack.asks index past = store.watcher.workers[index]?.elim [] Worker.asked) ∧
      ∀ action, action.requestKey? = none → (store.dispatch action).watcher = store.watcher) ∧
    -- how often the fetch of a worker ends, and what comes of it
    ((∀ index, ((Slack.finishes past).filter (·.1 = index)).length =
        store.watcher.workers[index]?.elim 0 Worker.ended) ∧
      applied past ++ store.watcher.outcomes = (Slack.finishes past).map fun fetch =>
        match fetch.2 with
        | .ok payload => .success payload
        | .error failure =>
          .failure
            { conversations := [], status? := failure.status?, message? := failure.message? }) ∧
    -- what the feed has become
    store.feed = Feed.run {} (actions past) := by
  intro store past
  have hbooks : Books store past := run_books moves
  have hrequests : Slack.requests past = Slack.starts past ++
      store.watcher.inbox.filterMap Action.requestKey? := by
    have hkeys := congrArg (List.filterMap Action.requestKey?) hbooks.requests
    simpa [List.filterMap_append, List.filterMap_map, Function.comp_def, Action.requestKey?,
      hbooks.starts] using hkeys
  refine ⟨hbooks.balance, ⟨hbooks.starts, ?_, hbooks.asks, ?_⟩, ⟨hbooks.finishes, ?_⟩, hbooks.feed⟩
  · intro index key hkey
    obtain ⟨hlt, -⟩ := List.getElem?_eq_some_iff.1 hkey
    rw [hrequests, List.getElem?_append_left hlt, hkey]
  · intro action haction
    cases action with
    | request => cases haction
    | success | failure | other => rfl
  · rw [hbooks.outcomes]
    refine List.map_congr_left fun fetch _ => ?_
    obtain ⟨index, outcome⟩ := fetch
    cases outcome <;> rfl

end Store

end CatalogView.Slack
