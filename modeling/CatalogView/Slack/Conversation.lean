import CatalogView.Json.Codec

/-!
# Slack conversations

A conversation is a thread of Slack messages in which a table is spoken of. Of its messages only
the first is kept, with its author and the number of messages.
-/

namespace CatalogView.Slack

open CatalogView.Json

/-- A member of a workspace. -/
structure User where
  displayName : String
  id : String
  firstName : String
  lastName : String
  realName : String
  smallImage : String
  fullImage : String
  title? : Option String := none
  deriving DecidableEq, Repr

namespace User

/-- The JSON form of a user. -/
def codec : Codec User where
  shape := .record "SlackUser" <|
    .cons "display_name" .text false <| .cons "id" .text false <|
    .cons "first_name" .text false <| .cons "last_name" .text false <|
    .cons "real_name" .text false <| .cons "image_72" .text false <|
    .cons "image_original" .text false <| .cons "title" (.optional .text) true .nil
  ofValue := fun (displayName, id, firstName, lastName, realName, small, full, title?, _) =>
    ⟨displayName, id, firstName, lastName, realName, small, full, title?⟩
  toValue u := (u.displayName, u.id, u.firstName, u.lastName, u.realName, u.smallImage,
    u.fullImage, u.title?, ())
  ofValue_toValue _ := rfl

/-- What a user is called: the first of display name, real name and identifier that is not
empty, where the identifier may be. -/
def label (user : User) : String :=
  if user.displayName ≠ "" then user.displayName
  else if user.realName ≠ "" then user.realName
  else user.id

end User

/-- A message in a channel. -/
structure Message where
  author : String
  channelId : String
  channel : String
  key : String
  team : String
  text : String
  /-- When the thread that the message belongs to began. -/
  threadTime : String
  time : String
  kind : String
  deriving DecidableEq, Repr

/-- The JSON form of a message. -/
def Message.codec : Codec Message where
  shape := .record "SlackMessage" <|
    .cons "author" .text false <| .cons "channel_id" .text false <|
    .cons "channel" .text false <| .cons "key" .text false <| .cons "team" .text false <|
    .cons "text" .text false <| .cons "thread_ts" .text false <| .cons "ts" .text false <|
    .cons "type" .text false .nil
  ofValue := fun (author, channelId, channel, key, team, text, threadTime, time, kind, _) =>
    ⟨author, channelId, channel, key, team, text, threadTime, time, kind⟩
  toValue m := (m.author, m.channelId, m.channel, m.key, m.team, m.text, m.threadTime, m.time,
    m.kind, ())
  ofValue_toValue _ := rfl

/-- A thread: its first message with its author, where it is found, and the number of its
messages, the first included. -/
structure Conversation where
  message : Message
  author : User
  permalink : String
  messages : UInt32
  deriving DecidableEq, Repr

namespace Conversation

/-- The JSON form of a conversation. -/
def codec : Codec Conversation where
  shape := .record "SlackConversation" <|
    .cons "message" Message.codec.shape false <| .cons "author" User.codec.shape false <|
    .cons "permalink" .text false <| .cons "replies" .count false .nil
  ofValue := fun (message, author, permalink, messages, _) =>
    ⟨Message.codec.ofValue message, User.codec.ofValue author, permalink, messages⟩
  toValue c := (Message.codec.toValue c.message, User.codec.toValue c.author, c.permalink,
    c.messages, ())
  ofValue_toValue _ := rfl

/-- The number of answers to the first message. -/
def replies (conversation : Conversation) : Nat :=
  conversation.messages.toNat - 1

/-- The key that tells a conversation apart in a list. -/
def elementKey (conversation : Conversation) : String :=
  "key:" ++ conversation.message.key

end Conversation

/-- What the catalog answers when it is asked for conversations: a message about the request and
the conversations. -/
structure Listing where
  message : String
  conversations : List Conversation
  deriving DecidableEq, Repr

/-- The JSON form of a listing. -/
def Listing.codec : Codec Listing where
  shape := .record "ConversationsResponse" <|
    .cons "message" .text false <|
    .cons "conversations" Conversation.codec.list.shape true .nil
  ofValue := fun (message, conversations, _) =>
    ⟨message, Conversation.codec.list.ofValue conversations⟩
  toValue l := (l.message, Conversation.codec.list.toValue l.conversations, ())
  ofValue_toValue l := by
    cases l
    exact congrArg _ (Conversation.codec.list.ofValue_toValue _)

/-- What the catalog answers when it refuses a request: a message about the request, if any. -/
structure Refusal where
  message? : Option String
  deriving DecidableEq, Repr

/-- The JSON form of a refusal. -/
def Refusal.codec : Codec Refusal where
  shape := .record "ErrorBody" <| .cons "message" (.optional .text) false .nil
  ofValue := fun (message?, _) => ⟨message?⟩
  toValue r := (r.message?, ())
  ofValue_toValue _ := rfl

end CatalogView.Slack
