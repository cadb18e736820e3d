import CatalogView.Proofs.Text.Line
import CatalogView.Proofs.Text.Numeral
import CatalogView.View.Bars
import CatalogView.View.Conversations
import Mathlib.Data.List.Basic

/-!
# The conversations panel and the bar below it

The panel shows a block of lines for each conversation, below a header if the last fetch failed, and
the bar at the bottom says in a few words how that fetch went. Each of the two looks at the feed for
itself. `conversations_shown_in_step` says what the panel shows for every feed, and that its header
and the bar never disagree.
-/

namespace CatalogView.View

open CatalogView.Screen CatalogView.Slack CatalogView.Text

variable {viewer : Viewer} {feed : Feed} {status : Nat}

/-! ## What the bar says -/

/-- The bar at the bottom says how the last fetch went in these words, which stand before the sign
of an error and the keys. -/
def BarSays (viewer : Viewer) (words : String) : Prop :=
  statusBarText viewer =
    " " ++ words ++ (if viewer.error?.isSome then "   ⚠ error [E]" else "") ++
      "   [Tab] focus   [r] reload   [?] help   [q] quit"

/-- The words are those for the feed, and no others fit. -/
theorem bar_says_iff {words : String} :
    BarSays viewer words ↔ fetchStatus viewer.store.feed = words := by
  unfold BarSays
  have hbar : statusBarText viewer = " " ++ fetchStatus viewer.store.feed ++
      (if viewer.error?.isSome then "   ⚠ error [E]" else "") ++
        "   [Tab] focus   [r] reload   [?] help   [q] quit" := rfl
  rw [hbar, String.append_left_inj, String.append_left_inj, String.append_right_inj]

/-- The words for a status begin with other letters than those for anything else. -/
theorem status_words_ne {words : String} (h : words.toList.head? ≠ some 's') :
    s!"status {status}" ≠ words := by
  intro hwords
  apply h
  rw [← hwords]
  show ("status " ++ toString status).toList.head? = some 's'
  rw [String.toList_append]
  rfl

/-- Different statuses have different words. -/
theorem status_words_inj {other : Nat} :
    s!"status {status}" = s!"status {other}" ↔ status = other := by
  constructor
  · intro h
    have hwords : "status " ++ Nat.repr status = "status " ++ Nat.repr other := h
    rw [String.append_right_inj] at hwords
    have hdigits : Nat.toDigits 10 status = Nat.toDigits 10 other := String.ofList_injective hwords
    rw [← nat_of_to_digits status, hdigits, nat_of_to_digits]
  · intro h
    rw [h]

/-- The words are those for a status if and only if the last answer had that status. -/
theorem fetch_status_eq_status_iff :
    fetchStatus feed = s!"status {status}" ↔
      feed.isLoading = false ∧ feed.status? = some status := by
  unfold fetchStatus
  cases hloading : feed.isLoading with
  | true =>
      have hwords : "loading" ≠ s!"status {status}" := (status_words_ne (by decide)).symm
      exact iff_of_false hwords fun h => Bool.noConfusion h.1
  | false =>
      cases hstatus : feed.status? with
      | none =>
          have hwords : "no response" ≠ s!"status {status}" := (status_words_ne (by decide)).symm
          exact iff_of_false hwords fun h => (Option.some_ne_none status).symm h.2
      | some other =>
          have hwords : s!"status {other}" = s!"status {status}" ↔ other = status :=
            status_words_inj
          rw [Option.some.injEq, ← hwords]
          exact (and_iff_right rfl).symm

/-- The words are that there was no answer if and only if there was none. -/
theorem fetch_status_eq_no_response_iff :
    fetchStatus feed = "no response" ↔ feed.isLoading = false ∧ feed.status? = none := by
  unfold fetchStatus
  cases hloading : feed.isLoading with
  | true => simp
  | false =>
      cases hstatus : feed.status? with
      | none => simp
      | some other => simpa using status_words_ne (by decide)

/-! ## What the header says -/

/-- What a header says about an answer with a status. -/
def refusalTexts (words : String) : List String :=
  ["Could not load conversations (" ++ words ++ ").", "Press [r] to retry."]

/-- What a header says if there was no answer. -/
def silenceTexts : List String :=
  ["Could not reach the catalog.", "Press [r] to retry."]

/-- The header about a status has its words. -/
theorem error_header_texts_some (status : Nat) :
    (errorHeader (some status)).map (·.text) = refusalTexts s!"status {status}" := by
  have hreason : s!"Could not load conversations (status {status})." =
      "Could not load conversations (" ++ s!"status {status}" ++ ")." := by
    have hwords : "Could not load conversations (" ++ "status " =
        "Could not load conversations (status " := by decide +kernel
    show _ = "Could not load conversations (" ++ ("status " ++ toString status) ++ ")."
    rw [← String.append_assoc, hwords]
    rfl
  unfold errorHeader refusalTexts
  rw [List.map_cons, List.map_singleton, Line.text_of, Line.text_of, ← hreason]

/-- The header without a status says that there was no answer. -/
theorem error_header_texts_none : (errorHeader none).map (·.text) = silenceTexts := by
  unfold errorHeader silenceTexts
  rw [List.map_cons, List.map_singleton, Line.text_of, Line.text_of]

/-- The texts of the header about a status are not those of the one without. -/
theorem refusal_texts_ne (words : String) : refusalTexts words ≠ silenceTexts := by
  intro h
  have hfirst : "Could not load conversations (" ++ words ++ ")." =
      "Could not reach the catalog." := (List.cons.inj h).1
  have hletter := congrArg (fun text : String => text.toList[10]?) hfirst
  rw [String.append_assoc] at hletter
  simp [String.toList_append] at hletter

variable {status? : Option Nat}

/-- A header is about a status if and only if it was made for that one. -/
theorem error_header_texts_some_iff :
    (errorHeader status?).map (·.text) = refusalTexts s!"status {status}" ↔
      status? = some status := by
  cases status? with
  | none =>
      rw [error_header_texts_none]
      exact iff_of_false (refusal_texts_ne _).symm (Option.some_ne_none status).symm
  | some other =>
      rw [error_header_texts_some, Option.some.injEq, ← status_words_inj]
      constructor
      · intro h
        have hfirst := (List.cons.inj h).1
        rwa [String.append_left_inj, String.append_right_inj] at hfirst
      · intro h
        rw [h]

/-- It is about none if and only if it was made for none. -/
theorem error_header_texts_none_iff :
    (errorHeader status?).map (·.text) = silenceTexts ↔ status? = none := by
  cases status? with
  | none => exact iff_of_true error_header_texts_none rfl
  | some status =>
      rw [error_header_texts_some]
      exact iff_of_false (refusal_texts_ne _) (Option.some_ne_none status)

/-! ## What the blocks say -/

/-- What a block says: who began the thread, when and where, the lines of the message, the number of
the answers to it, and where it is found. The last line is empty. -/
def blockTexts (conversation : Conversation) (textLines : List (List Char)) : List String :=
  (conversation.author.label ++ "  " ++ threadTime conversation ++ " - #" ++
      conversation.message.channel) ::
    textLines.map String.ofList ++
      ["(" ++ toString (conversation.messages.toNat - 1) ++ " Replies)",
        "View in Slack: " ++ conversation.permalink, ""]

/-- The lines of a text say what stands in them. -/
theorem of_text_texts (text : String) :
    (Line.ofText text).map (·.text) = (lines text.toList).map String.ofList := by
  unfold Line.ofText
  rw [List.map_map]
  refine List.map_congr_left fun line _ => ?_
  exact Line.text_of (.ofList line) {}

/-- The first line of a block tells who began the thread, when and where. -/
theorem author_line_text (conversation : Conversation) :
    (authorLine conversation).text = conversation.author.label ++ "  " ++
      threadTime conversation ++ " - #" ++ conversation.message.channel := by
  unfold authorLine
  rw [Line.text_cons, Line.text_cons, Line.text_nil, String.append_empty]
  show conversation.author.label ++ ("  " ++ threadTime conversation ++ " - #" ++ _) = _
  rw [← String.append_assoc, ← String.append_assoc, ← String.append_assoc]
  rfl

/-- A block says all of this about its conversation. -/
theorem block_texts (conversation : Conversation) :
    (conversationBlock conversation).map (·.text) =
      blockTexts conversation (lines conversation.message.text.toList) := by
  unfold conversationBlock blockTexts
  rw [List.map_append, List.map_cons, author_line_text, of_text_texts]
  simp only [List.map_cons, List.map_nil, Line.text_of, Line.text_cons, Line.text_nil,
    String.append_empty]
  rfl

/-! ## The panel -/

/-- While an answer is awaited the panel says so, and nothing else. -/
theorem lines_of_loading (h : feed.isLoading = true) :
    conversationLines feed = [Line.of "Loading conversations..."] :=
  if_pos h

/-- After that there is a block for each conversation below the header. -/
theorem lines_of_settled (h : feed.isLoading = false) :
    conversationLines feed =
      (if feed.isError then errorHeader feed.status? else []) ++
        feed.conversations.flatMap conversationBlock :=
  if_neg (h ▸ Bool.false_ne_true)

/-- Without an answer there is an error. -/
theorem is_error_of_no_status (hsettled : feed.isLoading = false) (hstatus : feed.status? = none) :
    feed.isError = true := by
  unfold Feed.isError
  rw [hsettled, hstatus]
  rfl

/-- The panel shows a block for each conversation, in the order of the feed, and each block says
what there is to say about its own conversation. So more conversations at the end of the feed have
their blocks at the end of the panel. Above the blocks stands a header of two lines if there is an
error, and nothing if there is none. The header has the words for a status if and only if the bar
says them, and it says that there was no answer if and only if the bar does. While an answer is
awaited both say so, whatever conversations the feed has. -/
theorem conversations_shown_in_step (viewer : Viewer) :
    let feed := viewer.store.feed
    -- while an answer is awaited
    (feed.isLoading = true →
      conversationLines feed = [Line.of "Loading conversations..."] ∧ BarSays viewer "loading") ∧
    -- after that
    (feed.isLoading = false → ∃ header : List Line,
      conversationLines feed = header ++ feed.conversations.flatMap conversationBlock ∧
      (feed.isError = true → header.length = 2) ∧
      (feed.isError = false → header = []) ∧
      (∀ status : Nat, header.map Line.text = refusalTexts s!"status {status}" ↔
        feed.isError = true ∧ BarSays viewer s!"status {status}") ∧
      (header.map Line.text = silenceTexts ↔ BarSays viewer "no response")) ∧
    -- the blocks
    (∀ conversation, ∃ textLines, HasLines conversation.message.text.toList textLines ∧
      (conversationBlock conversation).map Line.text = blockTexts conversation textLines) ∧
    (feed.isLoading = false → ∀ front back : List Conversation,
      conversationLines { feed with conversations := front ++ back } =
        conversationLines { feed with conversations := front } ++
          back.flatMap conversationBlock) := by
  intro feed
  refine ⟨fun hloading => ⟨lines_of_loading hloading, bar_says_iff.2 (if_pos hloading)⟩,
    fun hsettled => ⟨_, lines_of_settled hsettled, ?_⟩,
    fun conversation => ⟨_, has_lines _, block_texts conversation⟩,
    fun hsettled front back => ?_⟩
  · simp only [bar_says_iff, fetch_status_eq_status_iff, fetch_status_eq_no_response_iff]
    cases herror : feed.isError with
    | true =>
        refine ⟨fun _ => rfl, Bool.noConfusion, fun status => ?_, ?_⟩
        · rw [if_pos rfl, error_header_texts_some_iff]
          exact ⟨fun h => ⟨rfl, hsettled, h⟩, fun h => h.2.2⟩
        · rw [if_pos rfl, error_header_texts_none_iff]
          exact ⟨fun h => ⟨hsettled, h⟩, And.right⟩
    | false =>
        refine ⟨Bool.noConfusion, fun _ => rfl, fun status => ?_, ?_⟩
        · exact iff_of_false (List.cons_ne_nil _ _).symm fun h => Bool.noConfusion h.1
        · refine iff_of_false (List.cons_ne_nil _ _).symm fun ⟨_, hstatus⟩ => ?_
          rw [is_error_of_no_status hsettled hstatus] at herror
          cases herror
  · have hboth := @lines_of_settled { feed with conversations := front ++ back } hsettled
    have hfront := @lines_of_settled { feed with conversations := front } hsettled
    -- the header does not depend on the conversations
    rw [hboth, hfront, List.flatMap_append, ← List.append_assoc]
    rfl

end CatalogView.View
