import CatalogView.Proofs.Store.Conservation
import CatalogView.Proofs.Feed.Settled

/-!
# What decides a feed

Two actions decide what has become of a feed: whether it waits, and with which status it does not,
is up to the last action that is meant for it, and what it shows is up to the last one that settles
it. These need not be the same, since a request lets the feed wait and keeps what it shows.
`run_decided` says so of every run, and that `condense` keeps all actions that count.
-/

namespace CatalogView.Slack

/-- What an action says of the answer, if it is meant for the feed: whether it is awaited, and its
status. -/
def Action.standing? : Action → Option (Bool × Option Nat)
  | .request _ => some (true, none)
  | .success payload | .failure payload => some (false, payload.status?)
  | .other _ => none

/-- What the last action that is meant for the feed says of the answer. -/
def lastStanding? (actions : List Action) : Option (Bool × Option Nat) :=
  (actions.filterMap Action.standing?).getLast?

/-- An action that other actions follow changes nothing in the end: it belongs to someone else, or
settles a feed that is settled again. -/
def Action.isIdle (later : List Action) : Action → Bool
  | .request _ => false
  | .success _ | .failure _ => (lastPayload? later).isSome
  | .other _ => true

/-- The actions that count: every request, and of those that settle the feed the last one. -/
def condense : List Action → List Action
  | [] => []
  | action :: later =>
    if action.isIdle later then condense later else action :: condense later

/-- Something later that brings conversations counts before what the first action brings. -/
theorem last_payload_cons (action : Action) (later : List Action) :
    lastPayload? (action :: later) = (lastPayload? later).or action.payload? := by
  show lastPayload? ([action] ++ later) = _
  unfold lastPayload?
  rw [last_seen_append]
  cases hpayload : action.payload? <;> simp [hpayload]

/-- Something later that is meant for the feed counts before the first action. -/
theorem last_standing_cons (action : Action) (later : List Action) :
    lastStanding? (action :: later) = (lastStanding? later).or action.standing? := by
  show lastStanding? ([action] ++ later) = _
  unfold lastStanding?
  rw [last_seen_append]
  cases hstanding : action.standing? <;> simp [hstanding]

/-- What settles the feed is meant for it. -/
theorem standing_of_payload {action : Action} {payload : Payload}
    (h : action.payload? = some payload) : action.standing? = some (false, payload.status?) := by
  cases action with
  | request | other => cases h
  | success | failure => cases h; rfl

/-- Among actions of which one settles the feed there is one that is meant for it. -/
theorem last_standing_of_last_payload {actions : List Action}
    (h : (lastPayload? actions).isSome = true) : (lastStanding? actions).isSome = true := by
  induction actions with
  | nil => exact h
  | cons action later ih =>
      rw [last_standing_cons, Option.isSome_or]
      rw [last_payload_cons, Option.isSome_or, Bool.or_eq_true] at h
      rcases h with hlater | hfirst
      · rw [ih hlater, Bool.true_or]
      · obtain ⟨payload, hpayload⟩ := Option.isSome_iff_exists.1 hfirst
        rw [standing_of_payload hpayload, Option.isSome_some, Bool.or_true]

/-- An action that changes nothing in the end is not the last one that is meant for the feed. -/
theorem last_standing_cons_of_idle {action : Action} {later : List Action}
    (h : action.isIdle later = true) : lastStanding? (action :: later) = lastStanding? later := by
  rw [last_standing_cons]
  cases action with
  | request => cases h
  | success | failure =>
      obtain ⟨standing, hstanding⟩ := Option.isSome_iff_exists.1 (last_standing_of_last_payload h)
      rw [hstanding, Option.some_or]
  | other => exact Option.or_none

/-- Nor is it the last one that settles the feed. -/
theorem last_payload_cons_of_idle {action : Action} {later : List Action}
    (h : action.isIdle later = true) : lastPayload? (action :: later) = lastPayload? later := by
  rw [last_payload_cons]
  cases action with
  | request => cases h
  | success | failure =>
      obtain ⟨payload, hpayload⟩ := Option.isSome_iff_exists.1 h
      rw [hpayload, Option.some_or]
  | other => exact Option.or_none

/-- The last action that settles the feed counts. -/
theorem last_payload_condense (actions : List Action) :
    lastPayload? (condense actions) = lastPayload? actions := by
  induction actions with
  | nil => rfl
  | cons action later ih =>
      rw [condense]
      split
      next hidle => rw [ih, last_payload_cons_of_idle hidle]
      next => rw [last_payload_cons, ih, ← last_payload_cons]

/-- The last action that is meant for the feed counts. -/
theorem last_standing_condense (actions : List Action) :
    lastStanding? (condense actions) = lastStanding? actions := by
  induction actions with
  | nil => rfl
  | cons action later ih =>
      rw [condense]
      split
      next hidle => rw [ih, last_standing_cons_of_idle hidle]
      next => rw [last_standing_cons, ih, ← last_standing_cons]

namespace Feed

/-- The feed has a status only while it does not wait. -/
def IsConsistent (feed : Feed) : Prop :=
  feed.isLoading = true → feed.status? = none

/-- What has become of a feed, by the two actions that decide it. -/
def decided (feed : Feed) (actions : List Action) : Feed :=
  let standing := (lastStanding? actions).getD (feed.isLoading, feed.status?)
  { isLoading := standing.1
    status? := standing.2
    conversations := ((lastPayload? actions).map Payload.conversations).getD feed.conversations }

/-- What is decided after an action is what later actions leave of what it decides. -/
theorem decided_reduce (feed : Feed) (action : Action) (later : List Action) :
    (feed.reduce action).decided later = feed.decided (action :: later) := by
  unfold decided
  rw [last_standing_cons, last_payload_cons]
  cases lastStanding? later <;> cases lastPayload? later <;> cases action <;> rfl

/-- A run leaves of a feed what the two actions decide. -/
theorem run_eq_decided (feed : Feed) (actions : List Action) :
    feed.run actions = feed.decided actions := by
  induction actions generalizing feed with
  | nil => rfl
  | cons action later ih => rw [run_cons, ih, decided_reduce]

/-- No action gives a waiting feed a status. -/
theorem reduce_consistent {feed : Feed} (h : feed.IsConsistent) (action : Action) :
    (feed.reduce action).IsConsistent := by
  cases action with
  | request => exact fun _ => rfl
  | success | failure => exact fun hloading => nomatch hloading
  | other => exact h

/-- Nor do several actions. -/
theorem run_consistent {feed : Feed} (h : feed.IsConsistent) (actions : List Action) :
    (feed.run actions).IsConsistent := by
  induction actions generalizing feed with
  | nil => exact h
  | cons action later ih => exact ih (reduce_consistent h action)

/-- What has become of a feed is up to two of the actions, and only those that `condense` keeps
count. A feed that waits has no status at any moment, if it has none at first. The feed of a store
is such a feed: it changes by the actions that are dispatched and the outcomes that are applied, in
the order in which that happens. -/
theorem run_decided (feed : Feed) (actions : List Action) :
    -- whether the feed waits, and its status
    ((feed.run actions).isLoading, (feed.run actions).status?) =
      (lastStanding? actions).getD (feed.isLoading, feed.status?) ∧
    -- what it shows
    (feed.run actions).conversations =
      ((lastPayload? actions).map Payload.conversations).getD feed.conversations ∧
    -- what does not count
    feed.run (condense actions) = feed.run actions ∧
    -- at every moment
    (feed.IsConsistent → ∀ front, front <+: actions → (feed.run front).IsConsistent) ∧
    -- in a store
    ∀ moves, (Store.run {} moves).feed = Feed.run {} (Slack.actions (Store.history {} moves)) := by
  have hdecided := run_eq_decided feed actions
  refine ⟨?_, ?_, ?_, fun h front _ => run_consistent h front, fun moves => ?_⟩
  · rw [hdecided]
    rfl
  · rw [hdecided]
    rfl
  · rw [hdecided, run_eq_decided, decided, last_standing_condense, last_payload_condense]
    rfl
  · exact (Store.run_books moves).feed

-- The request decides that the feed waits, and the success before it what the feed shows.
example (first second : Payload) :
    condense [.failure first, .success second, .other "theme", .request "hive://gold.core/orders"] =
      [.success second, .request "hive://gold.core/orders"] := rfl

end Feed

end CatalogView.Slack
