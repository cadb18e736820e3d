import CatalogView.Proofs.Feed.Settled
import CatalogView.Slack.Endpoint
import CatalogView.Viewer.Basic

/-!
# Failures that are shown

A fetch can fail although its status grants the request: the body may be cut short or be no listing.
The feed keeps of an outcome only the status and the conversations, so such a failure is hidden: it
looks like a success without conversations. `failure_shown_iff` says that no other failure is.
-/

namespace CatalogView.Slack

/-- The answer grants the request, but no listing can be read from its body. -/
def isUnreadable (answer? : Option Http.Response) : Bool :=
  answer?.any fun response => isSuccess response.status && (listing? response).isNone

/-- The status of a failure grants the request. -/
def Failure.isHidden (failure : Failure) : Bool :=
  failure.status?.any isSuccess

variable {answer? : Option Http.Response}

/-- A fetch succeeds only with a status that grants the request. -/
theorem status_of_success {payload : Payload} (h : outcomeOf answer? = .ok payload) :
    payload.status?.any isSuccess = true := by
  cases answer? with
  | none => cases h
  | some response =>
      simp only [outcomeOf] at h
      split at h
      next hstatus =>
        split at h
        · cases h
          exact hstatus
        · cases h
      next => cases h

/-- The failures that are hidden are those of answers that cannot be read. -/
theorem hidden_of_failure {failure : Failure} (h : outcomeOf answer? = .error failure) :
    failure.isHidden = isUnreadable answer? := by
  cases answer? with
  | none =>
      cases h
      rfl
  | some response =>
      simp only [outcomeOf] at h
      split at h
      next hstatus =>
        split at h
        · cases h
        next hlisting =>
          cases h
          simp [Failure.isHidden, Failure.ofStatus, isUnreadable, hstatus, hlisting]
      next hstatus =>
        cases h
        simp [Failure.isHidden, Failure.ofStatus, isUnreadable, hstatus]

/-- A fetch fails when its answer cannot be read. -/
theorem failure_of_unreadable (h : isUnreadable answer? = true) :
    ∃ failure, outcomeOf answer? = .error failure := by
  cases houtcome : outcomeOf answer? with
  | error failure => exact ⟨failure, rfl⟩
  | ok payload =>
      cases answer? with
      | none => cases h
      | some response =>
          obtain ⟨hstatus, hlisting⟩ : isSuccess response.status = true ∧
              listing? response = none := by
            simpa [isUnreadable] using h
          simp [outcomeOf, hstatus, hlisting] at houtcome

/-- A feed that the outcome of a fetch settled is an error when the fetch failed, unless the answer
cannot be read. -/
theorem settled_is_error_iff (answer? : Option Http.Response) :
    (Feed.settled (.ofOutcome (outcomeOf answer?))).isError = true ↔
      (∃ failure, outcomeOf answer? = .error failure) ∧ isUnreadable answer? = false := by
  cases houtcome : outcomeOf answer? with
  | ok payload => simp [Payload.ofOutcome, status_of_success houtcome]
  | error failure =>
      rw [← hidden_of_failure houtcome]
      simp [Payload.ofOutcome, Failure.isHidden]

end CatalogView.Slack

namespace CatalogView.Viewer

open CatalogView.Slack

variable {viewer : Viewer} {earlier : List Action} {outcome : Except Failure Payload}

/-- Of several outcomes the last one settles the feed. -/
theorem feed_of_last_outcome
    (houtcomes : viewer.store.watcher.outcomes = earlier ++ [.ofOutcome outcome]) :
    viewer.store.process.feed = .settled (.ofOutcome outcome) := by
  simp only [Store.process, houtcomes, Feed.run_append, Feed.run_cons, Feed.run_nil]
  exact Feed.reduce_of_payload (payload_of_outcome outcome) _

/-- An error is shown, and is known to be one of a fetch, when the last of the outcomes is a failure
that is not hidden. -/
theorem refresh_reports_iff {failure : Failure}
    (houtcomes : viewer.store.watcher.outcomes = earlier ++ [.ofOutcome (.error failure)]) :
    (viewer.refresh.error?.isSome = true ∧ viewer.refresh.isFetchError = true) ↔
      failure.isHidden = false := by
  have hfeed := feed_of_last_outcome houtcomes
  have hsome : viewer.store.watcher.outcomes.isEmpty = false := by simp [houtcomes]
  have herror : viewer.store.process.feed.isError = !failure.isHidden := by
    rw [hfeed, Feed.settled_is_error]
    rfl
  have hloading : viewer.store.process.feed.isLoading = false := by
    rw [hfeed]
    rfl
  cases hhidden : failure.isHidden with
  | false => simp [refresh, hsome, herror, hhidden, report, Trouble.isOfFetch]
  | true =>
      cases hfetch : viewer.isFetchError <;>
        simp [refresh, hsome, herror, hhidden, hloading, hfetch, clearError]

end CatalogView.Viewer

namespace CatalogView.Slack

/-- After a fetch the feed is an error if and only if the fetch failed, and a failed fetch leaves an
error with the viewer, unless the answer cannot be read. Then the feed shows a success that brought
no conversations. -/
theorem failure_shown_iff (messages : Url) (backend : List Char → Option Text.Bytes)
    (key : String) :
    let outcome := fetch messages backend key
    let hidden := isUnreadable (answerTo messages backend key)
    -- the feed
    (∀ store : Store, ((store.dispatch (.ofOutcome outcome)).feed.isError = true ↔
        ∃ failure, outcome = .error failure) ↔ hidden = false) ∧
    -- the viewer
    (∀ (viewer : Viewer) (earlier : List Action) (failure : Failure),
      viewer.store.watcher.outcomes = earlier ++ [.ofOutcome outcome] →
      outcome = .error failure →
      ((viewer.refresh.error?.isSome = true ∧ viewer.refresh.isFetchError = true) ↔
        hidden = false)) ∧
    -- what is shown instead
    (hidden = true → (∃ failure, outcome = .error failure) ∧
      ∀ store : Store, (store.dispatch (.ofOutcome outcome)).feed.isError = false ∧
        (store.dispatch (.ofOutcome outcome)).feed.conversations = []) := by
  intro outcome hidden
  have hfeed : ∀ store : Store,
      (store.dispatch (.ofOutcome outcome)).feed = .settled (.ofOutcome outcome) := fun store =>
    Feed.reduce_of_payload (payload_of_outcome outcome) store.feed
  have herror : (Feed.settled (.ofOutcome outcome)).isError = true ↔
      (∃ failure, outcome = .error failure) ∧ hidden = false :=
    settled_is_error_iff (answerTo messages backend key)
  have hfailure : hidden = true → ∃ failure, outcome = .error failure := failure_of_unreadable
  refine ⟨fun store => ?_, fun viewer earlier failure houtcomes h => ?_, fun hhidden => ?_⟩
  · rw [hfeed, herror]
    cases hhidden : hidden with
    | false => simp
    | true => simpa using hfailure hhidden
  · have hsame : failure.isHidden = hidden := hidden_of_failure h
    rw [h] at houtcomes
    rw [Viewer.refresh_reports_iff houtcomes, hsame]
  · obtain ⟨failure, h⟩ := hfailure hhidden
    refine ⟨⟨failure, h⟩, fun store => ?_⟩
    rw [hfeed]
    constructor
    · simpa [hhidden] using herror.not
    · rw [h]
      rfl

/-- An answer that grants the request, with a record without fields for a body. -/
def withoutListing : Text.Bytes :=
  Text.Utf8.encode "HTTP/1.1 200 OK\r\n\r\n\x7b\x7d".toList

/-- Such an answer ends a fetch with a failure that has its status. -/
theorem fetch_without_listing (messages : Url) (key : String) :
    fetch messages (fun _ => some withoutListing) key = .error (.ofStatus 200 none) := by
  have hread : Http.Response.read? withoutListing = some ⟨200, some [0x7b, 0x7d]⟩ := by
    decide +kernel
  have hlisting : listing? ⟨200, some [0x7b, 0x7d]⟩ = none := by decide +kernel
  have hstatus : isSuccess 200 = true := rfl
  simp only [fetch, answerTo, Option.bind_some, hread, outcomeOf, hlisting, hstatus, if_true]

/-- The fetch fails, and neither the feed nor the viewer shows an error. -/
theorem failure_hidden_without_listing :
    let messages : Url := { scheme := "http".toList, path := .rooted [] }
    let outcome := fetch messages (fun _ => some withoutListing) "hive://gold.core/orders"
    let store : Store := { watcher := { outcomes := [.ofOutcome outcome] } }
    let viewer : Viewer := { key := "hive://gold.core/orders", store }
    (∃ failure, outcome = .error failure) ∧ store.process.feed.isError = false ∧
      viewer.refresh.error? = none ∧ viewer.refresh.isFetchError = false := by
  simp only [fetch_without_listing]
  exact ⟨⟨_, rfl⟩, rfl, rfl, rfl⟩

end CatalogView.Slack
