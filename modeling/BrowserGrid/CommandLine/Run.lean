import BrowserGrid.CommandLine.Reading
import BrowserGrid.CommandLine.Serve
import BrowserGrid.CommandLine.Usage
import BrowserGrid.Outline
import BrowserGrid.Settings.Load
import BrowserGrid.Settings.Location
import BrowserGrid.Settings.Overview
import BrowserGrid.Settings.Starter
/-!
# Running the program

`CommandLine.run` is the whole program: it reads the arguments, finds the settings file and writes
it if it is missing, loads the settings, opens the journal, and does what the command says.
-/

namespace BrowserGrid

/-- How the program ends. -/
structure Ending where
  /-- The code with which it exits. -/
  code : Nat := 0
  /-- What it complains about. -/
  complaint : Option String := none
  deriving DecidableEq, Inhabited

namespace CommandLine

open Shell

/-! ### Settings -/

/-- Write the settings file to start with. -/
def writeStarter (path : String) : Fallible Unit := do
  if let some folder := Path.parent? path then
    orFail ("creating config directory " ++ Text.pathLiteral folder) (makeFolder folder)
  orFail ("writing config file to " ++ path) (write path (Settings.starterFile path))

/-- The text of the settings file, whose path may lack the ending of its name. -/
def document? (path : String) : Shell (Option String) := do
  match ← read? path with
  | some text => return some text
  | none => read? (path ++ ".toml")

/-- Load the settings; a settings file that is missing is written first, unless nothing is to be
written. -/
def settings (env : Environment) (path : String) (dryRun : Bool) : Fallible Settings := do
  if !(← isPresent path) && !dryRun then writeStarter path
  match Settings.load (← document? path) env with
  | .ok settings => return settings
  | .error e => throw e.message

/-! ### Commands -/

/-- What a command works with. -/
structure Context where
  /-- The environment. -/
  env : Environment
  /-- The options. -/
  options : CommonOptions
  /-- The path of the settings file. -/
  path : String
  /-- The settings. -/
  settings : Settings
  /-- Where log lines go. -/
  journal : Journal

namespace Context

/-- Write a line about the hub. -/
def note (c : Context) (level : LogLevel) (message : String) : Shell Unit :=
  c.journal.note { level, topic := "gridhub", message }

/-- Write the settings file, or only say so. -/
def write (c : Context) (intention : String) : Fallible Unit := do
  if c.options.dryRun then c.note .info ("dry-run: would " ++ intention ++ c.path)
  else writeStarter c.path

/-- Do what a command says. -/
def perform (c : Context) : Command → Fallible Unit
  | .serve options => do
    let serving : Serving := {
      journal := c.journal
      settings := c.settings
      client := c.settings.container.client c.env }
    serving.run options
  | .create force => do
    if (← isPresent c.path) && !force then
      throw ("config already exists at " ++ c.path ++ " (use --force to overwrite)")
    else c.write "write default config to "
  | .showSettings => do
    if c.options.json then print c.settings.toJson.pretty
    else print c.settings.overview.text
  | .showPath => do print c.path
  | .reset => c.write "reset config at "
  | .completions shell => do print shell.script

end Context

/-! ### The program -/

/-- What is logged about the places of files. -/
def pathsRemark (path : String) : String :=
  "resolved paths: " ++
    (Outline.record "AppPaths" [("config_file", .word (Text.pathLiteral path))]).text

/-- Do what a command line says. -/
def execute (env : Environment) (line : CommandLine) : Fallible Unit := do
  let options := line.options
  let place ← (Settings.locate isFolder env options.config : Shell _)
  match place with
  | .error e => throw e.message
  | .ok path =>
    let settings ← settings env path options.dryRun
    let journal ← Journal.start env options.verbosity options.json settings.logging
    let context : Context := { env, options, path, settings, journal }
    context.note .debug (pathsRemark path)
    context.perform line.command

/-- The program. -/
def run (env : Environment) (arguments : List String) : Shell Ending := do
  match read arguments with
  | .error .misuse => return { code := 2, complaint := some Level.root.usage }
  | .error (.help level) =>
    print level.usage
    return {}
  | .error (.version level) =>
    print (versionText level)
    return {}
  | .ok line =>
    match ← (execute env line).run with
    | .ok _ => return {}
    | .error message => return { code := 1, complaint := some message }

end CommandLine

end BrowserGrid
