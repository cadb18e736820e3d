import CatalogView.Screen.Line
import CatalogView.Slack.Feed
import CatalogView.Slack.Timestamp

/-!
# The lines of the conversations panel

While an answer is awaited there is one line that says so. After that each conversation has a
block of lines of its own, in the order in which they came, below two lines about the error if the
request was not granted.
-/

namespace CatalogView.View

open CatalogView.Screen CatalogView.Slack CatalogView.Text

/-- When a thread began, as its timestamp says, or the timestamp itself if it says nothing. -/
def threadTime (conversation : Conversation) : String :=
  match conversation.instant? with
  | some instant => instant.show
  | none => conversation.message.threadTime

/-- The line that tells who wrote a message, when and where. -/
def authorLine (conversation : Conversation) : Line :=
  [{ text := conversation.author.label, style := { isBold := true } },
   { text := s!"  {threadTime conversation} - #{conversation.message.channel}"
     style := .label }]

/-- The lines of a conversation. -/
def conversationBlock (conversation : Conversation) : List Line :=
  authorLine conversation :: Line.ofText conversation.message.text ++
    [Line.of s!"({conversation.replies} Replies)" .label,
     [{ text := "View in Slack: " }, { text := conversation.permalink, style := .link }],
     []]

/-- The lines about a request that was not granted. -/
def errorHeader (status? : Option Nat) : List Line :=
  let reason :=
    match status? with
    | some status => s!"Could not load conversations (status {status})."
    | none => "Could not reach the catalog."
  [Line.of reason { color? := some .red }, Line.of "Press [r] to retry."]

/-- The lines of the panel. -/
def conversationLines (feed : Feed) : List Line :=
  if feed.isLoading then [Line.of "Loading conversations..."]
  else
    (if feed.isError then errorHeader feed.status? else []) ++
      feed.conversations.flatMap conversationBlock

end CatalogView.View
