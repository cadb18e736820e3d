import CatalogView.Proofs.Viewer.Error
import CatalogView.Proofs.Viewer.Start

/-!
# Errors that outlive a fetch

The viewer keeps one error only, the last. `ErrorChange` says what can happen to it after the
start: a feed that fails replaces it, and a feed that recovers takes away the error of a fetch and
no other. So what was wrong at the start is shown until the feed fails for the first time, and is
gone after that (`start_error_kept`).
-/

namespace CatalogView.Viewer

open CatalogView.Slack CatalogView.Table

/-- After its start a new viewer shows what was wrong, and that it is not about a fetch. -/
theorem start_error (settings : Settings) (key : String) (read : String → Document) :
    let started := ({ settings, key } : Viewer).start read
    started.error? = (startTrouble? settings key read).map Trouble.message ∧
      started.isFetchError = false := by
  intro started
  have hstarted : started = _ := start_taken_over ({ settings, key } : Viewer) read
  rw [hstarted]
  exact ⟨Option.or_none, Bool.and_false _⟩

/-- What a move other than a start does to the error. -/
inductive ErrorChange (viewer next : Viewer) : Prop where
  | kept (herror : next.error? = viewer.error?) (hfetch : next.isFetchError = viewer.isFetchError)
  /-- The feed has failed. -/
  | failed (herror : next.store.feed.isError = true) (hfetch : next.isFetchError = true)
  /-- The feed has recovered from a failure. -/
  | recovered (hbefore : viewer.isFetchError = true) (herror : next.error? = none)
      (hfetch : next.isFetchError = false)

variable {viewer next : Viewer}

/-- An event leaves the error as it is. -/
theorem Reaction.error_change (hreaction : Reaction viewer next) : ErrorChange viewer next := by
  cases hreaction with
  | look | openError | closeError | reload => exact .kept rfl rfl

/-- Outcomes that are taken over make the feed fail or recover, or leave the error as it is. -/
theorem refresh_error_change (viewer : Viewer) : ErrorChange viewer viewer.refresh := by
  unfold refresh
  split
  case isTrue => exact .kept rfl rfl
  case isFalse =>
    extract_lets store fresh
    split
    case isTrue herror => exact .failed herror rfl
    case isFalse =>
      split
      case isTrue hrecovers =>
        rw [Bool.and_eq_true] at hrecovers
        exact .recovered hrecovers.2 rfl rfl
      case isFalse => exact .kept rfl rfl

/-- No move but a start reports anything else than a failed feed. -/
theorem step_error_change (viewer : Viewer) {move : Move} (hmove : move.isStart = false) :
    ErrorChange viewer (viewer.step move) := by
  cases move with
  | start read => cases hmove
  | handle event => exact (handle_reaction viewer event).error_change
  | refresh => exact refresh_error_change viewer
  | render | work => exact .kept rfl rfl

/-- The feed has been an error at some moment of a run. -/
def HasFailed (viewer : Viewer) (moves : List Move) : Prop :=
  ∃ past, past <+: moves ∧ (viewer.steps past).store.feed.isError = true

/-- The feed has failed by the end of a run if it has failed before or fails now. -/
theorem has_failed_append_singleton (viewer : Viewer) (moves : List Move) (move : Move) :
    HasFailed viewer (moves ++ [move]) ↔
      HasFailed viewer moves ∨ (viewer.steps (moves ++ [move])).store.feed.isError = true := by
  simp only [HasFailed, List.prefix_concat_iff, or_and_right, exists_or, exists_eq_left]
  exact Or.comm

/-- What has become of an error that was there before a run. -/
structure ErrorKept (error? : Option String) (failed : Prop) (viewer : Viewer) : Prop where
  /-- It is there as long as the feed has not failed. -/
  untouched : ¬ failed → viewer.error? = error? ∧ viewer.isFetchError = false
  /-- Once the feed has failed there is the error of a fetch or none. -/
  replaced : failed →
    viewer.isFetchError = true ∨ viewer.error? = none ∧ viewer.isFetchError = false

/-- A change keeps what is said of the error, if the feed is reported whenever it fails. -/
theorem ErrorKept.step {error? : Option String} {failed : Prop} (h : ErrorKept error? failed viewer)
    (hchange : ErrorChange viewer next) (htrue : IsTruthful next) :
    ErrorKept error? (failed ∨ next.store.feed.isError = true) next := by
  have hreported : next.store.feed.isError = true → next.isFetchError = true :=
    fun herror => (htrue.reported herror).2
  constructor
  case untouched =>
    intro hnot
    obtain ⟨hbefore, hnow⟩ := not_or.1 hnot
    obtain ⟨herror, hfetch⟩ := h.untouched hbefore
    cases hchange with
    | kept hsame hsameFetch => exact ⟨hsame.trans herror, hsameFetch.trans hfetch⟩
    | failed hfailed => exact absurd hfailed hnow
    | recovered hwas => exact absurd (hfetch.symm.trans hwas) Bool.false_ne_true
  case replaced =>
    rintro (hbefore | hnow)
    · cases hchange with
      | kept hsame hsameFetch =>
          rw [hsame, hsameFetch]
          exact h.replaced hbefore
      | failed _ hfetch => exact .inl hfetch
      | recovered _ hnone hfetch => exact .inr ⟨hnone, hfetch⟩
    · exact .inl (hreported hnow)

/-- The viewer as it is started, for the key of a table. -/
abbrev started (settings : Settings) (key : String) (read : String → Document) : Viewer :=
  ({ settings, key } : Viewer).start read

/-- What becomes of the error of the start in a run after it. -/
theorem steps_error_kept (settings : Settings) (key : String) (read : String → Document)
    {moves : List Move} (hmoves : ∀ move ∈ moves, move.isStart = false) :
    ErrorKept ((startTrouble? settings key read).map Trouble.message)
      (HasFailed (started settings key read) moves) ((started settings key read).steps moves) := by
  induction moves using List.reverseRecOn with
  | nil =>
      refine ⟨fun _ => start_error settings key read, ?_⟩
      rintro ⟨past, hpast, hfailed⟩
      rw [List.prefix_nil.1 hpast] at hfailed
      cases hfailed
  | append_singleton moves move ih =>
      have hmove : move.isStart = false := hmoves move (by simp)
      have hbefore := ih fun move hmem => hmoves move (List.mem_append_left _ hmem)
      have htrue : IsTruthful ((started settings key read).steps (moves ++ [move])) :=
        steps_truthful settings key (.start read :: (moves ++ [move]))
      rw [has_failed_append_singleton]
      rw [steps_append_singleton] at htrue ⊢
      exact hbefore.step (step_error_change _ hmove) htrue

/-- A feed that does not fail never takes away an error that is not about a fetch. When it has
settled the viewer still shows what was wrong at its start, unless the feed has failed since then:
the failure took the place of what was shown, and nothing is shown any more. -/
theorem start_error_kept (settings : Settings) (key : String) (read : String → Document)
    (moves : List Move) (hmoves : ∀ move ∈ moves, move.isStart = false) :
    let viewer := (started settings key read).steps moves
    -- at every moment
    (viewer.isFetchError = false → viewer.refresh.store.feed.isError = false →
      viewer.refresh.error? = viewer.error?) ∧
    -- when the feed has settled
    (viewer.store.feed.isLoading = false → viewer.store.feed.isError = false →
      (¬ HasFailed (started settings key read) moves →
        viewer.error? = (startTrouble? settings key read).map Trouble.message) ∧
      (HasFailed (started settings key read) moves → viewer.error? = none)) := by
  intro viewer
  have hkept := steps_error_kept settings key read hmoves
  refine ⟨fun hfetch hrefreshed => ?_,
    fun hdone hnone => ⟨fun hnot => (hkept.untouched hnot).1, ?_⟩⟩
  · cases refresh_error_change viewer with
    | kept herror => exact herror
    | failed hfailed => exact absurd (hrefreshed.symm.trans hfailed) Bool.false_ne_true
    | recovered hwas => exact absurd (hfetch.symm.trans hwas) Bool.false_ne_true
  · intro hfailed
    have hcorrected : viewer.isFetchError = false :=
      (steps_truthful settings key (.start read :: moves)).corrected hdone hnone
    rcases hkept.replaced hfailed with hfetch | ⟨herror, -⟩
    · exact absurd (hcorrected.symm.trans hfetch) Bool.false_ne_true
    · exact herror

/-- The conversations are asked for, which fails, and once more, which succeeds. -/
def retried : List Move :=
  [.work .receive, .work (.ask 0), .work (.finish 0 (.error (.ofStatus 500 none))), .refresh,
    .handle (.key { code := .char 'r' }), .work .receive, .work (.ask 1),
    .work (.finish 1 (.ok { status? := some 200 })), .refresh]

/-- When the second fetch has succeeded, nothing is left of what was wrong with the key. -/
theorem start_error_kept_retried :
    let viewer := (started {} "orders" fun _ => .missing).steps retried
    (∀ move ∈ retried, move.isStart = false) ∧ viewer.store.feed.isLoading = false ∧
      viewer.store.feed.isError = false ∧ viewer.error? = none := by
  have hmoves : ∀ move ∈ retried, move.isStart = false := by decide
  have hfailed : HasFailed (started {} "orders" fun _ => .missing) retried :=
    ⟨retried.take 4, List.take_prefix 4 retried, by decide +kernel⟩
  intro viewer
  have hdone : viewer.store.feed.isLoading = false := by decide +kernel
  have hnone : viewer.store.feed.isError = false := by decide +kernel
  have herror := (start_error_kept {} "orders" (fun _ => .missing) retried hmoves).2 hdone hnone
  exact ⟨hmoves, hdone, hnone, herror.2 hfailed⟩

/-- The viewer loses what was wrong at its start when the feed fails and then recovers. -/
theorem start_error_lost :
    let viewer := (started {} "orders" fun _ => .missing).steps retried
    viewer.store.feed.isLoading = false ∧ viewer.store.feed.isError = false ∧
      (startTrouble? {} "orders" fun _ => .missing).map Trouble.message =
        some "Unrecognized table key: Invalid table key: orders" ∧
      viewer.error? = none := by
  decide +kernel

end CatalogView.Viewer
