import CatalogView.Proofs.Feed.Settled
import CatalogView.Proofs.Http.Sent
import CatalogView.Proofs.Json.RoundTrip
import CatalogView.Slack.Endpoint
import CatalogView.Slack.Store

/-!
# Answers that are shown

From the bytes that the catalog sends to the feed of the store. `answer_shown` says that the feed
shows the listing that was sent, or the status and nothing else if the request was refused. It takes
an answer with a body: what stands behind a head whose status allows no body is not read, and
`listing_lost_without_body` is such an answer.
-/

namespace CatalogView.Slack

open CatalogView.Http CatalogView.Text

/-! ## How fetches end -/

/-- A listing is read back from its document. -/
theorem listing_of_encode (status : Nat) (listing : Listing) :
    listing? ⟨status, some (Listing.codec.encode listing)⟩ = some listing := by
  have hread := Listing.codec.decode_encode (by decide +kernel) listing
  simp [listing?, hread, Except.toOption]

/-- The message of a refusal is read back from its document. -/
theorem message_of_encode (status : Nat) (refusal : Refusal) :
    refusalMessage? ⟨status, some (Refusal.codec.encode refusal)⟩ = refusal.message? := by
  have hread := Refusal.codec.decode_encode (by decide +kernel) refusal
  simp [refusalMessage?, hread, Except.toOption]

/-- A fetch that brings a listing ends well, with its conversations. -/
theorem outcome_of_listing {status : Nat} (hstatus : isSuccess status = true) (listing : Listing) :
    outcomeOf (some ⟨status, some (Listing.codec.encode listing)⟩) =
      .ok ⟨listing.conversations, some status, some listing.message⟩ := by
  simp only [outcomeOf, hstatus, if_true, listing_of_encode]

/-- A fetch that brings a refusal fails, with its message. -/
theorem outcome_of_refusal {status : Nat} (hstatus : isSuccess status = false) (refusal : Refusal) :
    outcomeOf (some ⟨status, some (Refusal.codec.encode refusal)⟩) =
      .error (.ofStatus status refusal.message?) := by
  simp only [outcomeOf, hstatus, Bool.false_eq_true, if_false, message_of_encode]

/-- A fetch that brings an empty body fails, whatever the status says, and has no message. -/
theorem outcome_of_empty (status : Nat) :
    outcomeOf (some ⟨status, some []⟩) = .error (.ofStatus status none) := by
  have hlisting : listing? ⟨status, some []⟩ = none := rfl
  have hmessage : refusalMessage? ⟨status, some []⟩ = none := rfl
  simp only [outcomeOf, hlisting, hmessage, ite_self]

/-! ## What the store shows -/

/-- However the outcome of a fetch reaches a store, and whatever the store was before, its feed is
then the given one. -/
structure Settles (outcome : Except Failure Payload) (feed : Feed) : Prop where
  /-- It is dispatched. -/
  dispatch : ∀ store : Store, (store.dispatch (.ofOutcome outcome)).feed = feed
  /-- A worker ends its fetch, and all that has arrived is applied. -/
  process : ∀ (store : Store) (index : Nat), store.watcher.isPending index = true →
    store.watcher.isHeard = true → (store.finish index outcome).process.feed = feed
  /-- It is the first one that has arrived, and one is applied. -/
  next : ∀ (store : Store) (later : List Action),
    store.watcher.outcomes = .ofOutcome outcome :: later → store.next.2.feed = feed

/-- The feed takes over what the fetch brings, and keeps nothing. -/
theorem settles_of_outcome (outcome : Except Failure Payload) :
    Settles outcome (.settled (.ofOutcome outcome)) where
  dispatch store := Feed.reduce_of_payload (payload_of_outcome outcome) store.feed
  process store index hpending hheard := by
    simp only [Store.finish, Watcher.finish, hpending, hheard, if_true, Store.process,
      Feed.run_append, Feed.run_cons, Feed.run_nil]
    exact Feed.reduce_of_payload (payload_of_outcome outcome) _
  next store later houtcomes := by
    rw [Store.next, houtcomes]
    exact Feed.reduce_of_payload (payload_of_outcome outcome) store.feed

/-- What the catalog answers is what the feed shows: of a grant the conversations, as many and in
the order in which they were sent, and of a refusal the status alone. Every answer that is sent with
a status that allows a body is received as such, and no other one brings a body. -/
theorem answer_shown (messages : Url) (backend : List Char → Option Bytes) (key : String) :
    let outcome := fetch messages backend key
    let answer? := answerTo messages backend key
    -- a grant with a listing
    (∀ (status : Nat) (listing : Listing), isSuccess status = true →
      answer? = some ⟨status, some (Listing.codec.encode listing)⟩ →
      outcome = .ok ⟨listing.conversations, some status, some listing.message⟩ ∧
        Settles outcome
          { isLoading := false, status? := some status, conversations := listing.conversations }) ∧
    -- a refusal with a message
    (∀ (status : Nat) (message : String), isSuccess status = false →
      answer? = some ⟨status, some (Refusal.codec.encode ⟨some message⟩)⟩ →
      outcome = .error (.ofStatus status (some message)) ∧
        Settles outcome { isLoading := false, status? := some status, conversations := [] }) ∧
    -- how answers with a body are sent
    (∀ (status : Nat) (body : Bytes), 200 ≤ status → status < 1000 → body.length ≤ maxLength →
      allowsBody status = true →
      backend (requestLine (requestUrl messages key)) = some (sent status body) →
      answer? = some ⟨status, some body⟩) ∧
    -- answers without a body
    (∀ response : Response, answer? = some response → allowsBody response.status = false →
      outcome = .error (.ofStatus response.status none) ∧
        Settles outcome
          { isLoading := false, status? := some response.status, conversations := [] }) := by
  intro outcome answer?
  have hsettles := settles_of_outcome outcome
  have houtcome : outcome = outcomeOf answer? := rfl
  refine ⟨fun status listing hstatus hanswer => ?_, fun status message hstatus hanswer => ?_,
    fun status body hlow hhigh hlength hallows hsent => ?_, fun response hanswer hallows => ?_⟩
  · rw [hanswer, outcome_of_listing hstatus] at houtcome
    rw [houtcome] at hsettles ⊢
    exact ⟨rfl, hsettles⟩
  · rw [hanswer, outcome_of_refusal hstatus] at houtcome
    rw [houtcome] at hsettles ⊢
    exact ⟨rfl, hsettles⟩
  · show (backend _).bind Response.read? = _
    rw [hsent, Option.bind_some, read_sent hlow hhigh hlength, if_pos hallows]
  · obtain ⟨bytes, -, hread⟩ := Option.bind_eq_some_iff.1 hanswer
    have hbody := body_of_not_allowed hread hallows
    have hempty : answer? = some ⟨response.status, some []⟩ := by rw [hanswer, ← hbody]
    rw [hempty, outcome_of_empty] at houtcome
    rw [houtcome] at hsettles ⊢
    exact ⟨rfl, hsettles⟩

/-- A conversation of so many messages, by the key of its first one. -/
def conversationOf (key text : String) (messages : UInt32) : Conversation where
  message :=
    { author := "U123", channelId := "C042", channel := "data-help", key, team := "T001", text
      threadTime := "1633024800.000200", time := "1633024800.000200", kind := "message" }
  author :=
    { displayName := "ada", id := "U123", firstName := "Ada", lastName := "Lovelace"
      realName := "Ada Lovelace", smallImage := "https://avatars.example/ada_72.png"
      fullImage := "https://avatars.example/ada.png" }
  permalink := "https://example.slack.com/archives/C042/p" ++ key
  messages

/-- A listing that is sent with a grant is shown with all its conversations, in their order, and a
refusal with its status. -/
theorem answer_shown_sent :
    let messages : Url := { scheme := "http".toList, path := .rooted [] }
    let listing : Listing :=
      ⟨"m", [conversationOf "b" "late \"é\"" 3, conversationOf "a" "two\nlines" 1,
        conversationOf "b" "" 4294967295]⟩
    let granted := fetch messages (fun _ => some (sent 200 (Listing.codec.encode listing))) "key"
    let refusal : Refusal := ⟨some "down\n"⟩
    let refused := fetch messages (fun _ => some (sent 503 (Refusal.codec.encode refusal))) "key"
    (granted = .ok ⟨listing.conversations, some 200, some "m"⟩ ∧
      Settles granted
        { isLoading := false, status? := some 200, conversations := listing.conversations }) ∧
    (refused = .error (.ofStatus 503 (some "down\n")) ∧
      Settles refused { isLoading := false, status? := some 503, conversations := [] }) := by
  intro messages listing granted refusal refused
  have hlisting : (Listing.codec.encode listing).length ≤ maxLength := by decide +kernel
  have hrefusal : (Refusal.codec.encode refusal).length ≤ maxLength := by decide +kernel
  obtain ⟨hgrant, -, hsent, -⟩ := answer_shown messages
    (fun _ => some (sent 200 (Listing.codec.encode listing))) "key"
  obtain ⟨-, hrefuse, hsent', -⟩ := answer_shown messages
    (fun _ => some (sent 503 (Refusal.codec.encode refusal))) "key"
  exact ⟨hgrant 200 listing rfl (hsent 200 _ (by decide) (by decide) hlisting rfl rfl),
    hrefuse 503 "down\n" rfl (hsent' 503 _ (by decide) (by decide) hrefusal rfl rfl)⟩

/-- A fetch ends with a failure that has the status alone if the status allows no body, whatever
body is sent. -/
theorem fetch_without_body (messages : Url) (key : String) {status : Nat} {body : Bytes}
    (hlow : 200 ≤ status) (hhigh : status < 1000) (hlength : body.length ≤ maxLength)
    (hallows : allowsBody status = false) :
    fetch messages (fun _ => some (sent status body)) key = .error (.ofStatus status none) := by
  simp only [fetch, answerTo, Option.bind_some, read_sent hlow hhigh hlength, hallows,
    Bool.false_eq_true, if_false, outcome_of_empty]

/-- A grant that is sent with a listing ends a fetch with a failure, and a refusal that is sent with
a message ends one without it, where the status allows no body. -/
theorem listing_lost_without_body :
    let messages : Url := { scheme := "http".toList, path := .rooted [] }
    let key := "hive://gold.core/orders"
    let grant := sent 204 (Listing.codec.encode ⟨"m", []⟩)
    let refusal := sent 304 (Refusal.codec.encode ⟨some "m"⟩)
    isSuccess 204 = true ∧
      fetch messages (fun _ => some grant) key = .error (.ofStatus 204 none) ∧
      isSuccess 304 = false ∧
      fetch messages (fun _ => some refusal) key ≠ .error (.ofStatus 304 (some "m")) := by
  intro messages key grant refusal
  have hgrant : fetch messages (fun _ => some grant) key = .error (.ofStatus 204 none) :=
    fetch_without_body messages key (by decide) (by decide) (by decide +kernel) rfl
  have hrefusal : fetch messages (fun _ => some refusal) key = .error (.ofStatus 304 none) :=
    fetch_without_body messages key (by decide) (by decide) (by decide +kernel) rfl
  refine ⟨rfl, hgrant, rfl, ?_⟩
  rw [hrefusal]
  decide

end CatalogView.Slack
