import BrowserGrid.Path
import BrowserGrid.Settings.Expansion
import BrowserGrid.Text.Literal
/-!
# Where the settings file is

The user may name the file, or a folder that holds it; otherwise it is in the hub's folder among the
user's settings.
-/

namespace BrowserGrid.Settings

/-- The name of the program, and of its folder. -/
def programName : String := "gridhub"

/-- The name of the settings file in a folder. -/
def fileName : String := "config.toml"

/-- Why there is no place for the settings file. -/
inductive LocationError where
  /-- The path that the user gave names a variable that is not set. -/
  | unexpandable
  /-- The path is not that of a file. -/
  | invalid (path : String)
  /-- There is no folder for settings. -/
  | homeless
  deriving DecidableEq, Inhabited

/-- The text of a failure. -/
def LocationError.message : LocationError → String
  | unexpandable => "expanding path"
  | invalid path => "invalid config file path: " ++ Text.pathLiteral path
  | homeless => "unable to determine configuration directory"

/-- The hub's folder among the user's settings. -/
def standardFolder? (env : Environment) : Option String :=
  match env.filled? "XDG_CONFIG_HOME" with
  | some folder => some (Path.join folder programName)
  | none => env.home?.map fun home => Path.join (Path.join home ".config") programName

/-- The path of a file, which must have a folder. -/
def checkFile (file : String) : Except LocationError String :=
  if (Path.parent? file).isNone then .error (.invalid file) else .ok file

/-- The place of the settings file, where `isFolder` tells which paths are folders. -/
def locate {m : Type → Type} [Monad m] (isFolder : String → m Bool) (env : Environment)
    (path : Option String) : m (Except LocationError String) := do
  match path with
  | some path =>
    match expand? env path with
    | some file => return checkFile (if ← isFolder file then Path.join file fileName else file)
    | none => return .error .unexpandable
  | none =>
    match standardFolder? env with
    | some folder => return checkFile (Path.join folder fileName)
    | none => return .error .homeless

end BrowserGrid.Settings
