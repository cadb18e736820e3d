import CatalogView.Proofs.Feed.Settled
import CatalogView.Proofs.Store.Conservation

/-!
# Waiting ends

A feed waits from a request on until something settles it. Any outcome does, also one of an older
request, so `NewestOutstanding` can say no more than this, and it is enough: while the feed waits,
the newest request is on its way. `loading_ends` concludes that nobody waits once nothing is.
-/

namespace CatalogView.Slack.Store

/-- A request is on its way. Requests have numbers in the order in which they are dispatched, which
are also those of the workers that are started for them. -/
inductive Outstanding (store : Store) (past : List Occurrence) (request : Nat) : Prop where
  /-- The watcher has not received it. -/
  | waiting (place key) :
      store.watcher.workers.length + place = request →
      store.watcher.inbox[place]? = some (.request key) → Outstanding store past request
  /-- Its fetch has not ended. -/
  | fetched (worker) :
      store.watcher.workers[request]? = some worker → worker.phase ≠ .finished →
      Outstanding store past request
  /-- Its outcome is queued, behind those that were applied. -/
  | queued (place outcome) :
      (finishes past)[(applied past).length + place]? = some (request, outcome) →
      store.watcher.outcomes[place]? = some (.ofOutcome outcome) → Outstanding store past request

/-- While the feed waits, the newest request is outstanding. -/
def NewestOutstanding (store : Store) (past : List Occurrence) : Prop :=
  0 < (requests past).length → store.feed.isLoading = true →
    Outstanding store past ((requests past).length - 1)

variable {store next : Store} {past occurring : List Occurrence}

/-- The requests that were received have workers, and the others wait. -/
theorem Books.length_requests (hbooks : Books store past) :
    (Slack.requests past).length =
      store.watcher.workers.length + store.watcher.inbox.length := by
  simpa using congrArg List.length hbooks.requests

/-- The outcomes of the fetches that ended are applied or queued. -/
theorem Books.length_finishes (hbooks : Books store past) :
    (Slack.finishes past).length = (applied past).length + store.watcher.outcomes.length := by
  simpa using (congrArg List.length hbooks.outcomes).symm

/-- Every queued outcome will settle the feed. -/
theorem Books.outcomes_settle (hbooks : Books store past) {action : Action}
    (hmem : action ∈ applied past ++ store.watcher.outcomes) :
    ∃ payload, action.payload? = some payload := by
  rw [hbooks.outcomes] at hmem
  obtain ⟨fetch, -, rfl⟩ := List.mem_map.1 hmem
  exact ⟨_, payload_of_outcome fetch.2⟩

/-- A request stays outstanding while nothing happens to it. -/
theorem Outstanding.of_same {request : Nat} (hwatcher : next.watcher = store.watcher)
    (hfinishes : finishes occurring = []) (happlied : applied occurring = [])
    (h : Outstanding store past request) : Outstanding next (past ++ occurring) request := by
  cases h with
  | waiting place key hplace hkey => exact .waiting place key (hwatcher ▸ hplace) (hwatcher ▸ hkey)
  | fetched worker hworker hphase => exact .fetched worker (hwatcher ▸ hworker) hphase
  | queued place outcome hfinish houtcome =>
      refine .queued place outcome ?_ (hwatcher ▸ houtcome)
      simpa [hfinishes, happlied] using hfinish

/-- The watcher starts a worker for an outstanding request, or goes on to it. -/
theorem Outstanding.receive {request : Nat} {key : String} {inbox : List Action}
    (hinbox : store.watcher.inbox = .request key :: inbox) (h : Outstanding store past request) :
    Outstanding
      { store with watcher :=
        { store.watcher with inbox, workers := store.watcher.workers ++ [{ key }] } }
      (past ++ [.started key]) request := by
  cases h with
  | waiting place other hplace hother =>
      rw [hinbox] at hother
      cases place with
      | zero =>
          refine .fetched { key } ?_ (by simp)
          simp [← hplace]
      | succ place =>
          refine .waiting place other ?_ (by simpa using hother)
          simp [← hplace]
          omega
  | fetched worker hworker hphase =>
      refine .fetched worker ?_ hphase
      obtain ⟨hlt, -⟩ := List.getElem?_eq_some_iff.1 hworker
      simpa [List.getElem?_append_left hlt] using hworker
  | queued place outcome hfinish houtcome =>
      exact .queued place outcome (by simpa [List.filterMap_cons] using hfinish) houtcome

/-- The worker of an outstanding request goes on to fetch. -/
theorem Outstanding.ask {request index : Nat} {worker : Worker}
    (hworker : store.watcher.workers[index]? = some worker) (h : Outstanding store past request) :
    Outstanding
      { store with watcher :=
        { store.watcher with
          workers := store.watcher.workers.set index { worker with phase := .fetching } } }
      (past ++ [.asked index worker.key]) request := by
  cases h with
  | waiting place key hplace hkey => exact .waiting place key (by simpa using hplace) hkey
  | fetched other hother hphase =>
      by_cases hsame : index = request
      · subst hsame
        obtain ⟨hlt, -⟩ := List.getElem?_eq_some_iff.1 hworker
        exact .fetched { worker with phase := .fetching } (by simp [hlt]) (by simp)
      · exact .fetched other (by simpa [hsame] using hother) hphase
  | queued place outcome hfinish houtcome =>
      exact .queued place outcome (by simpa [List.filterMap_cons] using hfinish) houtcome

/-- The end of a fetch queues the outcome of the request, or that of another one behind it. -/
theorem Outstanding.finish {request : Nat} (index : Nat) (worker : Worker)
    (outcome : Except Failure Payload) (hbooks : Books store past)
    (h : Outstanding store past request) :
    Outstanding
      { store with watcher :=
        { store.watcher with
          workers := store.watcher.workers.set index { worker with phase := .finished }
          outcomes := store.watcher.outcomes ++ [.ofOutcome outcome] } }
      (past ++ [.finished index outcome]) request := by
  cases h with
  | waiting place key hplace hkey => exact .waiting place key (by simpa using hplace) hkey
  | fetched other hother hphase =>
      by_cases hsame : index = request
      · subst hsame
        refine .queued store.watcher.outcomes.length outcome ?_ (by simp)
        simp [List.filterMap_cons, ← hbooks.length_finishes]
      · exact .fetched other (by simpa [hsame] using hother) hphase
  | queued place earlier hfinish houtcome =>
      obtain ⟨hfinished, -⟩ := List.getElem?_eq_some_iff.1 hfinish
      obtain ⟨hqueued, -⟩ := List.getElem?_eq_some_iff.1 houtcome
      refine .queued place earlier ?_ ?_
      · simpa [List.filterMap_cons, List.getElem?_append_left hfinished] using hfinish
      · simpa [List.getElem?_append_left hqueued] using houtcome

/-- What dispatches no request leaves the requests as they were. -/
theorem requests_append_of_nil (hnone : requests occurring = []) :
    requests (past ++ occurring) = requests past := by
  simp [hnone]

/-- In every turn of a waiting feed the newest request stays outstanding, or a newer one becomes
it. -/
theorem Turn.newest_outstanding (hturn : Turn store occurring next) (hbooks : Books store past)
    (h : NewestOutstanding store past) : NewestOutstanding next (past ++ occurring) := by
  intro hrequested hloading
  cases hturn with
  | idle => simpa using h (by simpa using hrequested) hloading
  | request key =>
      refine .waiting store.watcher.inbox.length key ?_ (by simp)
      simp [Action.requestKey?, hbooks.length_requests]
  | dispatch action haction =>
      rw [requests_append_of_nil (by simp [haction])] at hrequested ⊢
      cases action with
      | request => cases haction
      | success | failure => cases hloading
      | other => exact (h hrequested hloading).of_same rfl rfl rfl
  | take taken outcomes houtcomes =>
      cases taken with
      | nil =>
          obtain rfl : store.watcher.outcomes = outcomes := houtcomes
          simpa using h (by simpa using hrequested) hloading
      | cons outcome taken =>
          -- any outcome ends the waiting, so the newest request need not be among those taken
          have hsettle : ∀ action ∈ outcome :: taken,
              ∃ payload, action.payload? = some payload := by
            intro action hmem
            apply hbooks.outcomes_settle
            rw [houtcomes]
            exact List.mem_append_right _ (List.mem_append_left _ hmem)
          rw [Feed.run_not_loading (List.cons_ne_nil _ _) hsettle] at hloading
          cases hloading
  | receive key inbox hinbox =>
      rw [requests_append_of_nil rfl] at hrequested ⊢
      exact (h hrequested hloading).receive hinbox
  | ask index worker hworker =>
      rw [requests_append_of_nil rfl] at hrequested ⊢
      exact (h hrequested hloading).ask hworker
  | finish index worker outcome =>
      rw [requests_append_of_nil rfl] at hrequested ⊢
      exact (h hrequested hloading).finish index worker outcome hbooks

/-- At every moment of a run the newest request is outstanding while the feed waits. -/
theorem run_newest_outstanding (moves : List Move) :
    NewestOutstanding (run {} moves) (history {} moves) := by
  have hboth : Books (run {} moves) (history {} moves) ∧
      NewestOutstanding (run {} moves) (history {} moves) := by
    -- the books say which worker the next request will get, so both go through the run together
    refine @run_turns (fun store past => Books store past ∧ NewestOutstanding store past)
      ?_ ?_ moves
    · exact ⟨run_books [], fun hrequested => absurd hrequested (Nat.lt_irrefl 0)⟩
    · intro store past occurring next _ ⟨hbooks, h⟩ hturn
      exact ⟨hturn.books hbooks, hturn.newest_outstanding hbooks h⟩
  exact hboth.2

/-- Nothing is on its way: no request waits, no fetch is under way and no outcome is queued. -/
structure Idle (store : Store) : Prop where
  inbox : store.watcher.inbox = []
  workers : ∀ worker ∈ store.watcher.workers, worker.phase = .finished
  outcomes : store.watcher.outcomes = []

/-- Nothing is outstanding when nothing is on its way. -/
theorem Idle.not_outstanding (hidle : Idle store) (request : Nat) :
    ¬ Outstanding store past request := by
  intro h
  cases h with
  | waiting place key _ hkey => simp [hidle.inbox] at hkey
  | fetched worker hworker hphase =>
      exact hphase (hidle.workers worker (List.mem_of_getElem? hworker))
  | queued place outcome _ houtcome => simp [hidle.outcomes] at houtcome

/-- All outcomes were applied when nothing is on its way. -/
theorem Books.length_applied (hbooks : Books store past) (hidle : Idle store) :
    (applied past).length = (Slack.requests past).length := by
  have hunfinished : store.watcher.unfinished = 0 := by
    refine List.countP_eq_zero.2 fun worker hmem => ?_
    simp [Worker.isUnfinished, hidle.workers worker hmem]
  simpa [hidle.inbox, hidle.outcomes, hunfinished] using hbooks.balance.symm

/-- What is applied changes the feed. -/
theorem mem_actions_of_applied {outcome : Action} (hmem : outcome ∈ applied past) :
    outcome ∈ actions past := by
  obtain ⟨occurrence, hpast, hoccurrence⟩ := List.mem_filterMap.1 hmem
  cases occurrence with
  | applied other => exact List.mem_filterMap.2 ⟨_, hpast, hoccurrence⟩
  | dispatched | started | asked | finished => cases hoccurrence

/-- Once something has been requested, the feed waits only while the newest request is outstanding.
When nothing is on its way it shows what the last action that settled it brought. -/
theorem loading_ends (moves : List Move)
    (hrequested : 0 < (Slack.requests (history {} moves)).length) :
    let store := run {} moves
    let past := history {} moves
    (store.feed.isLoading = true → Outstanding store past ((Slack.requests past).length - 1)) ∧
    (Idle store → store.feed.isLoading = false ∧
      ∃ payload, lastPayload? (actions past) = some payload ∧
        store.feed.status? = payload.status? ∧
        store.feed.conversations = payload.conversations) := by
  intro store past
  have hbooks : Books store past := run_books moves
  have hnewest : store.feed.isLoading = true →
      Outstanding store past ((Slack.requests past).length - 1) :=
    run_newest_outstanding moves hrequested
  refine ⟨hnewest, fun hidle => ?_⟩
  have hdone : store.feed.isLoading = false := by
    cases hloading : store.feed.isLoading with
    | false => rfl
    | true => exact absurd (hnewest hloading) (hidle.not_outstanding _)
  obtain ⟨payload, hlast⟩ : ∃ payload, lastPayload? (actions past) = some payload := by
    have hlength : 0 < (applied past).length := by rwa [hbooks.length_applied hidle]
    have hmem := List.getElem_mem hlength
    obtain ⟨payload, hpayload⟩ := hbooks.outcomes_settle (List.mem_append_left _ hmem)
    exact last_payload_of_mem (mem_actions_of_applied hmem) hpayload
  have hfeed : store.feed = .settled payload := by
    rw [hbooks.feed] at hdone ⊢
    exact Feed.run_eq_settled hlast hdone
  exact ⟨hdone, payload, hlast, by rw [hfeed]; rfl, by rw [hfeed]; rfl⟩

/-- Two requests of which the second is answered first, and then the feed is given both outcomes. -/
def overtaken : List Move :=
  [.dispatch (.request "slow"), .dispatch (.request "fast"), .work .receive, .work .receive,
    .work (.ask 0), .work (.ask 1), .work (.finish 1 (.ok { status? := some 200 })), .next,
    .work (.finish 0 (.error .noResponse)), .process]

/-- Both requests of a run in which they overtake each other are over in the end, and the feed shows
the failure of the one that was answered last. -/
theorem loading_ends_overtaken :
    0 < (Slack.requests (history {} overtaken)).length ∧ Idle (run {} overtaken) ∧
      (run {} overtaken).feed.isLoading = false ∧ (run {} overtaken).feed.status? = none := by
  have hrequested : 0 < (Slack.requests (history {} overtaken)).length := by decide
  have hidle : Idle (run {} overtaken) := ⟨rfl, by decide, rfl⟩
  obtain ⟨hdone, payload, hlast, hstatus, -⟩ := (loading_ends overtaken hrequested).2 hidle
  obtain rfl : { status? := none } = payload := Option.some.inj hlast
  exact ⟨hrequested, hidle, hdone, hstatus⟩

end CatalogView.Slack.Store
