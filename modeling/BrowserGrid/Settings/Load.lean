import BrowserGrid.Settings
import BrowserGrid.Settings.Expansion
import BrowserGrid.Settings.Layers
import BrowserGrid.Toml.Parser
/-!
# Loading the settings

The settings are the standard ones, under those of the settings file, under those of the
environment.  The path of the log file is expanded at the end.
-/

namespace BrowserGrid.Settings

/-- Why there are no settings. -/
inductive LoadError where
  /-- The settings file is no document, or a setting has no fitting value. -/
  | unreadable
  /-- The path of the log file names a variable that is not set. -/
  | unexpandable
  deriving DecidableEq, Inhabited

/-- The text of a failure. -/
def LoadError.message : LoadError → String
  | unreadable => "unusable settings"
  | unexpandable => "expanding path"

/-- What the names of the variables of the hub start with, in lower case. -/
def variableStem : String := "gridhub_"

/-- The settings that hold unless another layer says otherwise. -/
def baseLayer : Json := .obj [("logging", .obj [("level", .str "info")])]

/-- The members of a document. -/
def documentLayer? : Option String → Option (List (String × Json))
  | none => some []
  | some text => (Toml.document? text).map membersOf

/-- All layers, one over the other. -/
def layered? (document : Option String) (env : Environment) : Option Json := do
  let members ← documentLayer? document
  return putAll (putAll baseLayer members) (environmentLayer variableStem env)

/-- Expand the path of the log file. -/
def expandLogFile? (env : Environment) (s : Settings) : Option Settings :=
  match s.logging.file with
  | none => some s
  | some file => (expand? env file).map fun file =>
    { s with logging := { s.logging with file := some file } }

/-- The settings of a document, if there is one, and of the environment. -/
def load (document : Option String) (env : Environment) : Except LoadError Settings :=
  match (layered? document env).bind ofJson? with
  | none => .error .unreadable
  | some settings =>
    match expandLogFile? env settings with
    | none => .error .unexpandable
    | some settings => .ok settings

end BrowserGrid.Settings
