import BrowserGrid.Json.Printer
import BrowserGrid.Logging.Filter
import BrowserGrid.Path
import BrowserGrid.Settings
import BrowserGrid.Shell
/-!
# Where log lines go

A `Journal` prints the lines that its filter keeps, as they are or as JSON, and appends them to the
log file if there is one.  `Journal.start` opens it.
-/

namespace BrowserGrid

/-- A line as JSON. -/
def LogLine.json (line : LogLine) : String :=
  (Json.obj [("level", .str line.level.name), ("fields", .obj [("message", .str line.message)]),
    ("target", .str line.topic)]).render

/-- Where log lines go. -/
structure Journal where
  /-- Which lines are kept. -/
  filter : LogFilter
  /-- Whether lines are written as JSON. -/
  json : Bool := false
  /-- The log file. -/
  file : Option String := none
  deriving DecidableEq, Inhabited

namespace Journal

/-- Write a line, if it is kept. -/
def note (j : Journal) (line : LogLine) : Shell Unit := do
  if j.filter.allows line then
    let text := if j.json then line.json else line.text
    Shell.print text
    if let some file := j.file then
      let _ ← Shell.append file (text ++ "\n")

/-- The variable that says which lines are kept, in place of the level. -/
def filterVariable : String := "RUST_LOG"

/-- Which lines are kept. -/
def filterOf (env : Environment) (level : LogLevel) : LogFilter :=
  ((env.get? filterVariable).bind LogFilter.parse?).getD (.standard level)

/-- Open a log file in its folder, and give back its path. -/
def openFile (path : String) : Shell.Fallible String := do
  match Path.fileName? path with
  | none => throw ("log file " ++ path ++ " has no file name")
  | some name =>
    let folder := ((Path.parent? path).filter (!·.isEmpty)).getD "."
    Shell.orFail ("creating log directory " ++ folder) (Shell.makeFolder folder)
    let file := Path.join folder name
    Shell.orFail ("opening log file " ++ path) (Shell.append file "")
    return file

/-- Open the journal. -/
def start (env : Environment) (verbosity : Verbosity) (json : Bool) (settings : LoggingSettings) :
    Shell.Fallible Journal := do
  let filter := filterOf env (verbosity.level settings.level)
  match settings.file with
  | none => return { filter, json }
  | some path => return { filter, json, file := some (← openFile path) }

end Journal

end BrowserGrid
