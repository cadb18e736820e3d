import CatalogView.Environment.Basic
import CatalogView.Settings.File
import CatalogView.Slack.Endpoint
import CatalogView.Text.Quoted
import CatalogView.Viewer.Basic

/-!
# Starting the viewer

The viewer starts with the resource key of a table as its first argument. Before anything is shown
the log is opened and the address of the catalog is checked.
-/

namespace CatalogView

open CatalogView.Text

/-- Why the viewer cannot start. -/
inductive StartupError where
  /-- No resource key is given. -/
  | usage
  | logDirectory (path reason : String)
  | logFile (path reason : String)
  /-- The catalog has no endpoint. The settings say where it is. -/
  | catalog (base : String) (error : Slack.EndpointError)
  deriving DecidableEq, Repr

namespace StartupError

/-- What an error is called. -/
def message : StartupError → String
  | .usage => "usage: stemma-view <table resource key>"
  | .logDirectory path _ => "creating log directory " ++ path
  | .logFile path _ => "opening log file " ++ path
  | .catalog base (.base _) => "invalid api.base_url " ++ .ofList (Quoted.encode base.toList)
  | .catalog _ (.path error) => Slack.EndpointError.message (.path error)

/-- What led to an error. -/
def cause? : StartupError → Option String
  | .usage => none
  | .logDirectory _ reason | .logFile _ reason => some reason
  | .catalog _ error => some error.cause.message

/-- The text in which an error is told before the viewer ends. -/
def report (error : StartupError) : String :=
  "Error: " ++ error.message ++
    (error.cause?.map ("\n\nCaused by:\n    " ++ ·)).getD "" ++ "\n"

end StartupError

/-- What is needed to show a table and to ask for its conversations. -/
structure Session where
  settings : Settings
  key : String
  messages : Url

namespace Session

/-- The resource key among the arguments. -/
def keyOf (arguments : List String) : Except StartupError String :=
  match arguments.head? with
  | some key => .ok key
  | none => .error .usage

/-- The settings of a file and the environment. -/
def settingsOf (environment : Environment) (file : Document) : Settings :=
  (Settings.loadOrDefault file).override environment

/-- Opens a session for a resource key. -/
def start (settings : Settings) (key : String) : Except StartupError Session :=
  match Slack.messagesUrl settings.api.baseUrl with
  | .ok messages => .ok { settings, key, messages }
  | .error error => .error (.catalog settings.api.baseUrl error)

/-- The viewer of a session. -/
def viewer (session : Session) : Viewer :=
  { settings := session.settings, key := session.key }

end Session

end CatalogView
