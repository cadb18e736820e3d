import CatalogView.Slack.Feed
import Mathlib.Data.List.Induction

/-!
# Feeds that wait no more

Successes and failures settle the feed alike: it takes over what they bring and forgets what it
showed. `Feed.run_eq_settled` says that a feed that does not wait any more shows what the last of
them brought, whatever else happened before and after it.
-/

namespace CatalogView.Slack

/-- What an action brings for the feed, if it settles it. -/
def Action.payload? : Action → Option Payload
  | .success payload | .failure payload => some payload
  | .request _ | .other _ => none

/-- What the end of a fetch brings for the feed. -/
def Payload.ofOutcome : Except Failure Payload → Payload
  | .ok payload => payload
  | .error failure => { status? := failure.status?, message? := failure.message? }

/-- What the last action that settles the feed brings. -/
def lastPayload? (actions : List Action) : Option Payload :=
  (actions.filterMap Action.payload?).getLast?

/-- Every fetch settles the feed when it ends. -/
@[simp] theorem payload_of_outcome (outcome : Except Failure Payload) :
    (Action.ofOutcome outcome).payload? = some (.ofOutcome outcome) := by
  cases outcome <;> rfl

/-- What is seen last of two lists is seen in the second one, unless nothing is seen there. -/
theorem last_seen_append {α β : Type} (view : α → Option β) (front back : List α) :
    ((front ++ back).filterMap view).getLast? =
      (back.filterMap view).getLast?.or (front.filterMap view).getLast? := by
  rw [List.filterMap_append, List.getLast?_append]

/-- An action counts before those that came earlier. -/
theorem last_payload_append_singleton (actions : List Action) (action : Action) :
    lastPayload? (actions ++ [action]) = action.payload?.or (lastPayload? actions) := by
  unfold lastPayload?
  rw [last_seen_append]
  cases hpayload : action.payload? <;> simp [hpayload]

/-- Among several actions there is one that settles the feed if one of them does. -/
theorem last_payload_of_mem {actions : List Action} {action : Action} {payload : Payload}
    (hmem : action ∈ actions) (hpayload : action.payload? = some payload) :
    ∃ last, lastPayload? actions = some last := by
  have hne : actions.filterMap Action.payload? ≠ [] :=
    List.ne_nil_of_mem (List.mem_filterMap.2 ⟨action, hmem, hpayload⟩)
  exact ⟨_, List.getLast?_eq_some_getLast hne⟩

namespace Feed

/-- The feed that shows what was brought. -/
def settled (payload : Payload) : Feed :=
  { isLoading := false, status? := payload.status?, conversations := payload.conversations }

/-- An action that settles the feed leaves nothing of what it showed. -/
theorem reduce_of_payload {action : Action} {payload : Payload}
    (hpayload : action.payload? = some payload) (feed : Feed) :
    feed.reduce action = settled payload := by
  cases action with
  | request | other => cases hpayload
  | success | failure => cases hpayload; rfl

/-- A settled feed is an error unless it has a status that grants the request. -/
@[simp] theorem settled_is_error (payload : Payload) :
    (settled payload).isError = !payload.status?.any isSuccess := rfl

/-- A feed that does not wait shows what the last action that settled it brought. -/
theorem run_eq_settled {feed : Feed} {actions : List Action} {payload : Payload}
    (hlast : lastPayload? actions = some payload)
    (hdone : (feed.run actions).isLoading = false) : feed.run actions = settled payload := by
  induction actions using List.reverseRecOn with
  | nil => cases hlast
  | append_singleton actions action ih =>
      rw [last_payload_append_singleton] at hlast
      rw [run_append, run_cons, run_nil] at hdone ⊢
      cases action with
      | request key => cases hdone
      | success | failure => cases hlast; rfl
      | other kind => exact ih hlast hdone

/-- A feed does not wait when all that happened, and something did, settled it. -/
theorem run_not_loading {feed : Feed} {actions : List Action} (hne : actions ≠ [])
    (hsettle : ∀ action ∈ actions, ∃ payload, action.payload? = some payload) :
    (feed.run actions).isLoading = false := by
  obtain ⟨payload, hlast⟩ := hsettle _ (List.getLast_mem hne)
  rw [← List.dropLast_concat_getLast hne, run_append, run_cons, run_nil, reduce_of_payload hlast]
  rfl

end Feed

end CatalogView.Slack
