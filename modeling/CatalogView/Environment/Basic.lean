/-!
# The environment

The variables of the environment, and the places that they name.
-/

namespace CatalogView

/-- The environment gives some names a value. -/
abbrev Environment := String → Option String

namespace Environment

/-- The environment with more variables, which give way to those that are set. -/
def withDefaults (environment : Environment) (added : List (String × String)) : Environment :=
  fun name => environment name <|> added.lookup name

/-- The directory of the user. -/
def home? (environment : Environment) : Option String :=
  (environment "HOME").filter (· ≠ "")

/-- A path below a directory. -/
def below (directory path : String) : String :=
  if directory.endsWith "/" then directory ++ path else directory ++ "/" ++ path

/-- A directory of the user: the one that a variable names from the root, or else one below the
user's own. -/
def userDirectory? (environment : Environment) (name path : String) : Option String :=
  match (environment name).filter (·.startsWith "/") with
  | some directory => some directory
  | none => environment.home?.map (below · path)

/-- The file with the settings. -/
def settingsFile (environment : Environment) : String :=
  match environment.userDirectory? "XDG_CONFIG_HOME" ".config" with
  | some directory => below directory "stemma-view/config.toml"
  | none => "config/default.toml"

/-- The directory with the log. -/
def logDirectory (environment : Environment) : String :=
  match environment.userDirectory? "XDG_DATA_HOME" ".local/share" with
  | some directory => below directory "stemma-view"
  | none => "logs"

/-- The file with the log. -/
def logFile (environment : Environment) : String :=
  below environment.logDirectory "stemma-view.log"

end Environment

end CatalogView
