import CatalogView.Environment.File
import CatalogView.Startup.Session
import CatalogView.View.Draw
import CatalogView.Viewer.Keyboard

/-!
# The program

Shows one table at the terminal. Keys are read from the standard input, and the screen is printed
anew after each line of them. The network is not reached from here, so every fetch ends without an
answer.
-/

namespace CatalogView

open CatalogView.Screen CatalogView.Text

/-- The reason that the system gives for an error. -/
def reasonOf (error : IO.Error) : String :=
  match error with
  | .noFileOrDirectory _ code details | .inappropriateType _ code details
  | .alreadyExists _ code details | .permissionDenied _ code details
  | .resourceExhausted _ code details | .otherError code details =>
    details.capitalize ++ " (os error " ++ toString code.toNat ++ ")"
  | other => toString other

/-- Reads what is at a path. -/
def readDocument (path : String) : IO Document := do
  try
    let bytes ← IO.FS.readBinFile path
    return .file bytes.toList
  catch error =>
    match error with
    | .noFileOrDirectory .. => return .missing
    | _ => return .directory

/-- The environment of the program for the names that it asks for, with the variables that a file
in the working directory adds. -/
def readEnvironment : IO Environment := do
  let names := ["HOME", "XDG_CONFIG_HOME", "XDG_DATA_HOME", Settings.baseUrlVariable,
    Settings.detailFileVariable]
  let known ← names.filterMapM fun name => do
    return (← IO.getEnv name).map fun value => (name, value)
  let environment : Environment := fun name => known.lookup name
  match (← readDocument ".env").text with
  | .ok text => return environment.withDefaults (environment.variablesOf text)
  | .error _ => return environment

/-- The directory above another one. -/
def directoryAbove (path : String) : String :=
  .ofList ((path.toList.reverse.dropWhile (· ≠ '/')).drop 1).reverse

/-- Makes a directory, and those above it as far as they are missing. -/
partial def makeDirectory (path : String) : IO Unit := do
  try
    IO.FS.createDir path
  catch error =>
    match error with
    | .noFileOrDirectory .. =>
      if path.isEmpty then throw error
      makeDirectory (directoryAbove path)
      IO.FS.createDir path
    | _ =>
      match ← readDocument path with
      | .directory => unless (error matches .alreadyExists ..) do throw error
      | _ => throw error

/-- Opens the log. -/
def openLog (environment : Environment) : IO (Except StartupError Unit) := do
  let directory := environment.logDirectory
  let file := environment.logFile
  try
    makeDirectory directory
  catch error => return .error (.logDirectory directory (reasonOf error))
  try
    let log ← IO.FS.Handle.mk file .append
    log.flush
    return .ok ()
  catch error => return .error (.logFile file (reasonOf error))

/-- Prints the screen. The program ends if the screen cannot be shown. -/
def printScreen (viewer : Viewer) : IO Viewer := do
  let (viewer, canvas) := viewer.render 80 24
  if canvas.isOverrun then throw (IO.userError "drawn outside the screen")
  let output ← IO.getStdout
  for row in canvas.rows do
    output.putStrLn (rowText row)
  output.flush
  return viewer

/-- Ends the fetches that have begun, of which no one answers any. -/
def endFetches (viewer : Viewer) : Viewer :=
  let indices := List.range viewer.store.watcher.calls.length
  (indices.foldl (fun viewer index => viewer.finish index (Slack.outcomeOf none)) viewer).refresh

/-- Shows the viewer until a key quits or no more keys come. -/
partial def showUntilQuit (viewer : Viewer) : IO Unit := do
  let viewer ← printScreen viewer
  let line ← (← IO.getStdin).getLine
  unless line.isEmpty do
    let (viewer, quits) := viewer.type (line.toList.filter (· ≠ '\n'))
    unless quits do
      showUntilQuit (endFetches viewer)

/-- Runs the program with its arguments. -/
def runProgram (arguments : List String) : IO (Except StartupError Unit) := do
  let environment ← readEnvironment
  match Session.keyOf arguments with
  | .error error => return .error error
  | .ok key =>
    let settings := Session.settingsOf environment (← readDocument environment.settingsFile)
    match ← openLog environment with
    | .error error => return .error error
    | .ok () =>
      match Session.start settings key with
      | .error error => return .error error
      | .ok session =>
        let detail ←
          match settings.view.detailFile? with
          | some path => readDocument path
          | none => pure .missing
        showUntilQuit (endFetches (session.viewer.start fun _ => detail).settle)
        return .ok ()

end CatalogView

/-- Runs the program and tells its error, if there is one. -/
def main (arguments : List String) : IO UInt32 := do
  match ← CatalogView.runProgram arguments with
  | .ok () => return 0
  | .error error =>
    (← IO.getStderr).putStr error.report
    return 1
