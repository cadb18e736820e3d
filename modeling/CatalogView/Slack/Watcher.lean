import CatalogView.Slack.Feed

/-!
# The watcher of requests

The watcher receives actions in the order in which they were sent and starts a worker for each
request among them. A worker asks the catalog once and sends back one outcome when the answer is
there. Workers do not wait for each other, so outcomes arrive in the order in which fetches finish.
-/

namespace CatalogView.Slack

/-- How far a worker is. -/
inductive Phase where
  | started
  | fetching
  | finished
  deriving DecidableEq, Repr

/-- The worker for one request. -/
structure Worker where
  key : String
  phase : Phase := .started
  deriving DecidableEq, Repr

/-- Lets a worker that has been started ask the catalog. -/
def Worker.ask (worker : Worker) : Worker :=
  match worker.phase with
  | .started => { worker with phase := .fetching }
  | _ => worker

/-- The watcher with its workers and the channels on both sides of them. -/
structure Watcher where
  /-- The actions that were sent and not yet received. -/
  inbox : List Action := []
  /-- The workers in the order in which they were started. -/
  workers : List Worker := []
  /-- The outcomes that have arrived and not yet been taken. -/
  outcomes : List Action := []
  /-- The watcher and its workers can take steps. -/
  isRunning : Bool := true
  /-- Someone takes the outcomes. -/
  isHeard : Bool := true
  deriving DecidableEq, Repr

namespace Watcher

/-- Sends an action to the watcher. It is lost when the watcher does not run any more. -/
def send (watcher : Watcher) (action : Action) : Watcher :=
  if watcher.isRunning then { watcher with inbox := watcher.inbox ++ [action] } else watcher

/-- The workers for the requests among some actions. -/
def workersFor (actions : List Action) : List Worker :=
  actions.filterMap fun action => action.requestKey?.map fun key => { key }

/-- Receives the next action. -/
def receive (watcher : Watcher) : Watcher :=
  if watcher.isRunning then
    match watcher.inbox with
    | [] => watcher
    | action :: inbox =>
      { watcher with inbox, workers := watcher.workers ++ workersFor [action] }
  else watcher

/-- Lets a worker ask the catalog. -/
def ask (watcher : Watcher) (index : Nat) : Watcher :=
  if watcher.isRunning then
    { watcher with workers := watcher.workers.modify index Worker.ask }
  else watcher

/-- Lets the watcher and all workers go on until they have to wait. -/
def settle (watcher : Watcher) : Watcher :=
  if watcher.isRunning then
    { watcher with
      inbox := []
      workers := (watcher.workers ++ workersFor watcher.inbox).map Worker.ask }
  else watcher

/-- The fetch of the worker can still finish. -/
def isPending (watcher : Watcher) (index : Nat) : Bool :=
  watcher.isRunning && watcher.workers[index]?.any (·.phase == .fetching)

/-- Ends the fetch of a worker, whose outcome arrives if it is heard. A fetch that has not begun or
has ended already cannot be ended. -/
def finish (watcher : Watcher) (index : Nat) (outcome : Except Failure Payload) : Watcher :=
  if watcher.isPending index then
    { watcher with
      workers := watcher.workers.modify index ({ · with phase := .finished })
      outcomes :=
        if watcher.isHeard then watcher.outcomes ++ [.ofOutcome outcome] else watcher.outcomes }
  else watcher

/-- Stops the watcher and all workers for good. -/
def stop (watcher : Watcher) : Watcher :=
  { watcher with isRunning := false, inbox := [] }

/-- The keys of the fetches that have begun. -/
def calls (watcher : Watcher) : List String :=
  (watcher.workers.filter (·.phase != .started)).map (·.key)

end Watcher

end CatalogView.Slack
