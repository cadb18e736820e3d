import CatalogView.Screen.Arrangement
import CatalogView.Settings.Basic
import CatalogView.Slack.Store
import CatalogView.Table.Detail
import CatalogView.Table.Key

/-!
# The viewer

The viewer shows one table: its common filters and joins and the conversations about it. It keeps
what is known about the table, what is shown of it, and the last error.
-/

namespace CatalogView

open CatalogView.Screen CatalogView.Slack CatalogView.Table

/-- The number of lines that each panel is scrolled by. -/
structure Scrolls where
  conversations : Nat := 0
  filters : Nat := 0
  joins : Nat := 0
  deriving DecidableEq, Repr

namespace Scrolls

/-- The greatest number of lines that a panel can be scrolled by. -/
def max : Nat := 65535

/-- A number of lines within the bounds. -/
def clamp (lines : Int) : Nat :=
  (Max.max 0 (Min.min (max : Int) lines)).toNat

/-- The number of lines that a panel is scrolled by. -/
def get (scrolls : Scrolls) : Focus → Nat
  | .conversations => scrolls.conversations
  | .filters => scrolls.filters
  | .joins => scrolls.joins

/-- Scrolls a panel to a line. -/
def set (scrolls : Scrolls) (lines : Nat) : Focus → Scrolls
  | .conversations => { scrolls with conversations := lines }
  | .filters => { scrolls with filters := lines }
  | .joins => { scrolls with joins := lines }

/-- Scrolls a panel on by so many lines, as far as the bounds allow. -/
def move (scrolls : Scrolls) (focus : Focus) (lines : Int) : Scrolls :=
  scrolls.set (clamp (scrolls.get focus + lines)) focus

/-- A panel is scrolled to the line it was scrolled to. -/
@[simp] theorem get_set (scrolls : Scrolls) (lines : Nat) (focus : Focus) :
    (scrolls.set lines focus).get focus = lines := by
  cases focus <;> rfl

/-- Scrolling a panel leaves the others where they are. -/
theorem get_set_of_ne (scrolls : Scrolls) (lines : Nat) {focus other : Focus}
    (h : other ≠ focus) : (scrolls.set lines focus).get other = scrolls.get other := by
  cases focus <;> cases other <;> first | rfl | exact absurd rfl h

end Scrolls

/-- What can go wrong while a table is viewed. -/
inductive Trouble where
  | unrecognized (invalid : InvalidKey)
  | unloaded (error : LoadError)
  | unfetched (status? : Option Nat)

namespace Trouble

/-- What a person is told about it. -/
def message : Trouble → String
  | .unrecognized invalid => "Unrecognized table key: " ++ invalid.message
  | .unloaded error => "Failed to load table metadata: " ++ error.message
  | .unfetched (some status) => s!"Failed to load slack conversations: status {status}"
  | .unfetched none => "Failed to load slack conversations: no response received"

/-- It happened to a fetch, so that a better fetch puts it right. -/
def isOfFetch : Trouble → Bool
  | .unfetched _ => true
  | _ => false

end Trouble

/-- The state of the viewer. -/
structure Viewer where
  settings : Settings := {}
  /-- The resource key of the table as it was given. -/
  key : String
  table? : Option Key := none
  detail : Detail := {}
  store : Store := {}
  arrangement : Arrangement := {}
  focus : Focus := .conversations
  scrolls : Scrolls := {}
  showsHelp : Bool := false
  showsError : Bool := false
  /-- The last error, unless it has been put right. -/
  error? : Option String := none
  /-- The last error happened to a fetch. -/
  isFetchError : Bool := false

namespace Viewer

/-- The name of the table, or its resource key where that could not be taken apart. -/
def tableName (viewer : Viewer) : String :=
  match viewer.table? with
  | some key => key.name
  | none => viewer.key

/-- Reports an error. -/
def report (viewer : Viewer) (trouble : Trouble) : Viewer :=
  { viewer with error? := some trouble.message, isFetchError := trouble.isOfFetch }

/-- Forgets the last error. -/
def clearError (viewer : Viewer) : Viewer :=
  { viewer with error? := none, isFetchError := false, showsError := false }

/-- Asks for the conversations, which are shown from their beginning. -/
def reload (viewer : Viewer) : Viewer :=
  { viewer with
    scrolls := viewer.scrolls.set 0 .conversations
    store := viewer.store.dispatch (.request viewer.key) }

/-- Takes over what is known of the table: its parts, if the key gives them, and its details, if
`read` finds a document with them where the settings say. Then asks for the conversations. -/
def start (viewer : Viewer) (read : String → Document) : Viewer :=
  let named :=
    match Key.parse viewer.key with
    | .ok key => { viewer with table? := some key }
    | .error invalid => viewer.report (.unrecognized invalid)
  let detailed :=
    match viewer.settings.view.detailFile? with
    | none => named
    | some path =>
      match Detail.load (read path) with
      | .ok detail => { named with detail }
      | .error error => named.report (.unloaded error)
  detailed.reload

/-- Applies the outcomes of finished fetches. If there were any, the last of them decides whether
there is an error. -/
def refresh (viewer : Viewer) : Viewer :=
  if viewer.store.watcher.outcomes.isEmpty then viewer
  else
    let store := viewer.store.process
    let fresh := { viewer with store }
    if store.feed.isError then fresh.report (.unfetched store.feed.status?)
    else if !store.feed.isLoading && viewer.isFetchError then fresh.clearError
    else fresh

/-- Lets the fetches go on until they have to wait. -/
def settle (viewer : Viewer) : Viewer :=
  { viewer with store := viewer.store.settle }

/-- Ends a fetch. -/
def finish (viewer : Viewer) (index : Nat) (outcome : Except Failure Payload) : Viewer :=
  { viewer with store := viewer.store.finish index outcome }

end Viewer

end CatalogView
