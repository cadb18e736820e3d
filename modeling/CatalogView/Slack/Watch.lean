import CatalogView.Slack.Store

/-!
# The ends of channels

A channel is open to the one who receives from it as long as someone can send to it or something is
left in it. Requests are sent by whoever holds the sending end of the watcher's channel. Outcomes
are sent by the workers, and the watcher keeps a sending end to hand on to new workers until it
ends, which it does when its own channel is closed. A store holds the sending end of its watcher as
long as it is there, so for its outcomes it matters only whether the tasks were stopped
(`Store.next` and `Watch.next` say the same of it).
-/

namespace CatalogView.Slack

/-- A watcher with the ends of its channels. -/
structure Watch where
  watcher : Watcher := {}
  /-- Someone can send to the watcher. -/
  isOpen : Bool := true
  /-- The watcher has ended. -/
  isOver : Bool := false
  deriving DecidableEq, Repr

namespace Watch

/-- The number of those who can send an outcome: the watcher, and the workers whose fetch has not
ended. -/
def senders (watch : Watch) : Nat :=
  if watch.watcher.isRunning then
    (if watch.isOver then 0 else 1) + watch.watcher.workers.countP (·.phase ≠ .finished)
  else 0

/-- Sends an action to the watcher, if its channel is open. -/
def send (watch : Watch) (action : Action) : Watch :=
  if watch.isOpen then { watch with watcher := watch.watcher.send action } else watch

/-- Gives the sending end of the watcher's channel up. -/
def close (watch : Watch) : Watch :=
  { watch with isOpen := false }

/-- Receives the next action. The watcher ends when there is none and none can come. -/
def receive (watch : Watch) : Watch :=
  { watch with
    watcher := watch.watcher.receive
    isOver := watch.isOver ||
      (watch.watcher.isRunning && !watch.isOpen && watch.watcher.inbox.isEmpty) }

/-- Lets a worker ask the catalog. -/
def ask (watch : Watch) (index : Nat) : Watch :=
  { watch with watcher := watch.watcher.ask index }

/-- Ends the fetch of a worker. -/
def finish (watch : Watch) (index : Nat) (outcome : Except Failure Payload) : Watch :=
  { watch with watcher := watch.watcher.finish index outcome }

/-- Takes the first outcome that has arrived. If there is none, more can come only as long as
someone can send one. -/
def next (watch : Watch) : Waiting × Watch :=
  match watch.watcher.outcomes with
  | _ :: outcomes => (.applied, { watch with watcher := { watch.watcher with outcomes } })
  | [] => (if watch.senders = 0 then .closed else .pending, watch)

end Watch

/-- The watcher of a store, which holds the sending end of its channel. -/
def Store.watch (store : Store) : Watch := { watcher := store.watcher }

end CatalogView.Slack
