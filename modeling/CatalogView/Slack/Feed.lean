import CatalogView.Slack.Conversation
import CatalogView.Slack.Failure

/-!
# The feed of conversations

The feed holds the conversations that are shown and how the last request for them went. It changes
by actions only: a request makes it wait, and what comes back, good or bad, replaces the
conversations.
-/

namespace CatalogView.Slack

/-- What came back from a request. -/
structure Payload where
  conversations : List Conversation := []
  status? : Option Nat := none
  message? : Option String := none
  deriving DecidableEq, Repr

/-- What can happen to the feed. An action of another kind belongs to someone else. -/
inductive Action where
  | request (key : String)
  | success (payload : Payload)
  | failure (payload : Payload)
  | other (kind : String)
  deriving DecidableEq, Repr

namespace Action

/-- The name of the kind of an action. -/
def kind : Action → String
  | .request _ => "stemma/slack/GET_SLACK_CONVERSATIONS_REQUEST"
  | .success _ => "stemma/slack/GET_SLACK_CONVERSATIONS_SUCCESS"
  | .failure _ => "stemma/slack/GET_SLACK_CONVERSATIONS_FAILURE"
  | .other name => name

/-- The key that is asked for, if the action is a request. -/
def requestKey? : Action → Option String
  | .request key => some key
  | _ => none

/-- The action that a finished fetch leads to. A failed one brings no conversations. -/
def ofOutcome : Except Failure Payload → Action
  | .ok payload => .success payload
  | .error f => .failure { status? := f.status?, message? := f.message? }

end Action

/-- The conversations that are shown, whether an answer is awaited, and the status of the last
answer. -/
structure Feed where
  isLoading : Bool := true
  status? : Option Nat := none
  conversations : List Conversation := []
  deriving DecidableEq, Repr

/-- A status that grants a request. -/
def isSuccess (status : Nat) : Bool := 200 ≤ status && status < 300

namespace Feed

/-- An answer is there, but none that grants the request. -/
def isError (feed : Feed) : Bool :=
  !feed.isLoading && !feed.status?.any isSuccess

/-- The feed after an action. -/
def reduce (feed : Feed) : Action → Feed
  | .request _ => { feed with isLoading := true, status? := none }
  | .success payload | .failure payload =>
    { isLoading := false, status? := payload.status?, conversations := payload.conversations }
  | .other _ => feed

/-- The feed after several actions. -/
def run (feed : Feed) (actions : List Action) : Feed :=
  actions.foldl reduce feed

@[simp] theorem run_nil (feed : Feed) : feed.run [] = feed := rfl

@[simp] theorem run_cons (feed : Feed) (action : Action) (actions : List Action) :
    feed.run (action :: actions) = (feed.reduce action).run actions := rfl

/-- Running two lists of actions one after the other is running them as one. -/
theorem run_append (feed : Feed) (first second : List Action) :
    feed.run (first ++ second) = (feed.run first).run second :=
  List.foldl_append

end Feed

end CatalogView.Slack
