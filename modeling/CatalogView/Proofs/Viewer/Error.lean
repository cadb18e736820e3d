import CatalogView.Proofs.Viewer.Run

/-!
# Errors that are shown are true

The viewer keeps the last error apart from the feed, and several operations write either.
`IsTruthful` says that they agree. Every operation keeps it: a reload makes the feed wait, so that
nothing is claimed about it, and outcomes are reported where they are taken over. From this
`error_truthful` follows for all runs.
-/

namespace CatalogView.Viewer

open CatalogView.Slack

/-- There is an error if it is said to be one of a fetch, or is shown. -/
def HasError (viewer : Viewer) : Prop :=
  viewer.isFetchError = true ∨ viewer.showsError = true → viewer.error?.isSome = true

/-- The error that is kept, if any, and the feed agree. -/
structure IsTruthful (viewer : Viewer) : Prop where
  /-- A feed that is an error is reported. -/
  reported : viewer.store.feed.isError = true →
    viewer.error? = some (Trouble.unfetched viewer.store.feed.status?).message ∧
      viewer.isFetchError = true
  /-- A feed that is none has put the error of an earlier fetch right. -/
  corrected : viewer.store.feed.isLoading = false → viewer.store.feed.isError = false →
    viewer.isFetchError = false
  hasError : HasError viewer

/-- A feed that waits is no error. -/
theorem not_error_of_loading {feed : Feed} (hloading : feed.isLoading = true) :
    feed.isError = false := by
  simp [Feed.isError, hloading]

variable {viewer next : Viewer}

/-- An error stays true while neither it nor the feed changes. -/
theorem IsTruthful.of_same (h : IsTruthful viewer) (hfeed : next.store.feed = viewer.store.feed)
    (herror : next.error? = viewer.error?) (hfetch : next.isFetchError = viewer.isFetchError)
    (hshown : next.showsError = true → viewer.error?.isSome = true) : IsTruthful next where
  reported := by
    rw [hfeed, herror, hfetch]
    exact h.reported
  corrected := by
    rw [hfeed, hfetch]
    exact h.corrected
  hasError := by
    unfold HasError
    rw [herror, hfetch]
    rintro (hof | hshows)
    · exact h.hasError (.inl hof)
    · exact hshown hshows

/-- A reload makes the feed wait, and nothing is claimed about a feed that waits. -/
theorem reload_truthful (herror : HasError viewer) : IsTruthful viewer.reload where
  reported hfeed := by
    rw [not_error_of_loading rfl] at hfeed
    cases hfeed
  corrected hdone := by cases hdone
  hasError := herror

/-- An event leaves the error true. -/
theorem Reaction.truthful (hreaction : Reaction viewer next) (h : IsTruthful viewer) :
    IsTruthful next := by
  cases hreaction with
  | look => exact h.of_same rfl rfl rfl fun hshows => h.hasError (.inr hshows)
  | openError hsome => exact h.of_same rfl rfl rfl fun _ => hsome
  | closeError => exact h.of_same rfl rfl rfl nofun
  | reload => exact reload_truthful h.hasError

/-- There is an error when one is reported. -/
theorem report_has_error (trouble : Trouble) : HasError (viewer.report trouble) := fun _ => rfl

/-- The viewer is started with what is found out about the table, which can be an error, and with a
reload. -/
theorem start_truthful (read : String → Document) (h : IsTruthful viewer) :
    IsTruthful (viewer.start read) := by
  unfold start
  extract_lets named detailed
  have hnamed : HasError named := by
    unfold named
    split
    · exact h.hasError
    · exact report_has_error _
  have hdetailed : HasError detailed := by
    unfold detailed
    split
    · exact hnamed
    · split
      · exact hnamed
      · exact report_has_error _
  exact reload_truthful hdetailed

/-- An error of the feed is reported with its status. -/
theorem report_truthful (herror : viewer.store.feed.isError = true) :
    IsTruthful (viewer.report (.unfetched viewer.store.feed.status?)) where
  reported _ := ⟨rfl, rfl⟩
  corrected _ hnone := absurd herror (Bool.eq_false_iff.1 hnone)
  hasError := report_has_error _

/-- Nothing is left to be said when the feed is no error. -/
theorem clear_error_truthful (hnone : viewer.store.feed.isError = false) :
    IsTruthful viewer.clearError where
  reported herror := absurd herror (Bool.eq_false_iff.1 hnone)
  corrected _ _ := rfl
  hasError := by rintro (hfetch | hshows) <;> contradiction

/-- Outcomes that are taken over are reported, or put the error of an earlier fetch right. -/
theorem refresh_truthful (h : IsTruthful viewer) : IsTruthful viewer.refresh := by
  unfold refresh
  split
  case isTrue => exact h
  case isFalse =>
    extract_lets store fresh
    split
    case isTrue herror => exact @report_truthful fresh herror
    case isFalse herror =>
      have hnone : fresh.store.feed.isError = false := Bool.eq_false_iff.2 herror
      split
      case isTrue => exact clear_error_truthful hnone
      -- a feed that still waits, or no error of a fetch that could be put right
      case isFalse hkept =>
        refine ⟨fun herror => absurd herror (Bool.eq_false_iff.1 hnone), ?_, h.hasError⟩
        intro hdone _
        have hloading : store.feed.isLoading = false := hdone
        simpa [hloading] using hkept

/-- What is told about a failed fetch names the status, if there was one. -/
theorem unfetched_message (status? : Option Nat) :
    (Trouble.unfetched status?).message = "Failed to load slack conversations: " ++
      match status? with
      | some status => "status " ++ toString status
      | none => "no response received" := by
  cases status? with
  | none => rfl
  | some status =>
      have hprefix : "Failed to load slack conversations: " ++ "status " =
          "Failed to load slack conversations: status " := by decide +kernel
      rw [← String.append_assoc, hprefix]
      rfl

/-- Every move leaves the error true. -/
theorem step_truthful (move : Move) (h : IsTruthful viewer) : IsTruthful (viewer.step move) := by
  cases move with
  | start read => exact start_truthful read h
  | handle event => exact (handle_reaction viewer event).truthful h
  | refresh => exact refresh_truthful h
  | render | work => exact h.of_same rfl rfl rfl fun hshows => h.hasError (.inr hshows)

/-- The error is true after every run of a new viewer. -/
theorem steps_truthful (settings : Settings) (key : String) (moves : List Move) :
    IsTruthful (({ settings, key } : Viewer).steps moves) := by
  refine @steps_induction IsTruthful _ ?_ ?_ moves
  · exact ⟨nofun, nofun, by rintro (hfetch | hshows) <;> contradiction⟩
  · intro viewer move h
    exact step_truthful move h

/-- At every moment of a run a feed that is an error is reported with its status, a feed that has
settled otherwise leaves no error of a fetch, and there is an error whenever one is said to be of a
fetch or is shown. -/
theorem error_truthful (settings : Settings) (key : String) (moves : List Move) :
    let viewer := ({ settings, key } : Viewer).steps moves
    let feed := viewer.store.feed
    (feed.isError = true →
      viewer.error? = some ("Failed to load slack conversations: " ++
        match feed.status? with
        | some status => "status " ++ toString status
        | none => "no response received") ∧
      viewer.isFetchError = true) ∧
    (feed.isLoading = false → feed.isError = false → viewer.isFetchError = false) ∧
    (viewer.isFetchError = true → viewer.error?.isSome = true) ∧
    (viewer.showsError = true → viewer.error?.isSome = true) := by
  intro viewer feed
  have h : IsTruthful viewer := steps_truthful settings key moves
  refine ⟨fun herror => ?_, h.corrected, fun hfetch => h.hasError (.inl hfetch),
    fun hshows => h.hasError (.inr hshows)⟩
  rw [← unfetched_message]
  exact h.reported herror

end CatalogView.Viewer
