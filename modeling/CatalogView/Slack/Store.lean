import CatalogView.Slack.Watcher

/-!
# The store of the feed

The store owns the feed and is the only one to change it: by the actions that are dispatched to it
and by the outcomes of the fetches that requests among them begin. Outcomes are applied in the
order in which they arrive, each once.
-/

namespace CatalogView.Slack

/-- The feed and the watcher of its requests. -/
structure Store where
  feed : Feed := {}
  watcher : Watcher := {}
  deriving DecidableEq, Repr

/-- What there is to take for one who waits for an outcome. -/
inductive Waiting where
  | applied
  | pending
  | closed
  deriving DecidableEq, Repr

namespace Store

/-- Applies an action, and sends it on if it is a request. -/
def dispatch (store : Store) (action : Action) : Store :=
  { feed := store.feed.reduce action
    watcher :=
      match action with
      | .request _ => store.watcher.send action
      | _ => store.watcher }

/-- Applies all outcomes that have arrived. -/
def process (store : Store) : Store :=
  { feed := store.feed.run store.watcher.outcomes
    watcher := { store.watcher with outcomes := [] } }

/-- Applies outcomes one after the other, and counts them on from those applied so far. -/
def takeOver (feed : Feed) (applied : Nat) : List Action → Nat × Feed
  | [] => (applied, feed)
  | action :: outcomes => takeOver (feed.reduce action) (applied + 1) outcomes

/-- Applies all outcomes that have arrived, and says how many there were. -/
def drain (store : Store) : Nat × Store :=
  let (applied, feed) := takeOver store.feed 0 store.watcher.outcomes
  (applied, { feed, watcher := { store.watcher with outcomes := [] } })

/-- As many outcomes are counted as are applied. -/
theorem take_over_eq (feed : Feed) (applied : Nat) (outcomes : List Action) :
    takeOver feed applied outcomes = (applied + outcomes.length, feed.run outcomes) := by
  induction outcomes generalizing feed applied with
  | nil => rfl
  | cons action outcomes ih =>
      rw [takeOver, ih, List.length_cons, Feed.run_cons, Nat.add_assoc, Nat.add_comm 1]

/-- Counting the outcomes does not change what they do. -/
theorem drain_eq (store : Store) :
    store.drain = (store.watcher.outcomes.length, store.process) := by
  rw [drain, take_over_eq, Nat.zero_add]
  rfl

/-- Applies the first outcome that has arrived. If there is none, more can come only as long as
the watcher runs. -/
def next (store : Store) : Waiting × Store :=
  match store.watcher.outcomes with
  | action :: outcomes =>
    (.applied,
      { feed := store.feed.reduce action, watcher := { store.watcher with outcomes } })
  | [] => (if store.watcher.isRunning then .pending else .closed, store)

/-- Lets the watcher and its workers go on until they have to wait. -/
def settle (store : Store) : Store :=
  { store with watcher := store.watcher.settle }

/-- Ends the fetch of a worker. -/
def finish (store : Store) (index : Nat) (outcome : Except Failure Payload) : Store :=
  { store with watcher := store.watcher.finish index outcome }

/-- Stops the watcher and all workers for good. -/
def stop (store : Store) : Store :=
  { store with watcher := store.watcher.stop }

/-- Gives the store up. The fetches that are under way go on, but nobody takes their outcomes. -/
def drop (store : Store) : Store :=
  { store with watcher := { store.watcher with isHeard := false, outcomes := [] } }

end Store

end CatalogView.Slack
