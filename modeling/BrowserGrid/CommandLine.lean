import BrowserGrid.Logging.Verbosity
/-!
# The command line

A `CommandLine` is what a user asks the hub for: a `Command`, and the options that every command
takes.
-/

namespace BrowserGrid

/-- When log lines are colored. -/
inductive ColorMode where
  /-- If the output is a terminal. -/
  | auto
  /-- Always. -/
  | always
  /-- Never. -/
  | never
  deriving DecidableEq, Inhabited

/-- The shells that completions can be written for. -/
inductive CompletionShell where
  /-- The shell `bash`. -/
  | bash
  /-- The shell `elvish`. -/
  | elvish
  /-- The shell `fish`. -/
  | fish
  /-- The shell `powershell`. -/
  | powershell
  /-- The shell `zsh`. -/
  | zsh
  deriving DecidableEq, Inhabited

/-- The color mode of a name. -/
def ColorMode.ofName? : String → Option ColorMode
  | "auto" => some auto
  | "always" => some always
  | "never" => some never
  | _ => none

/-- The shell of a name. -/
def CompletionShell.ofName? : String → Option CompletionShell
  | "bash" => some bash
  | "elvish" => some elvish
  | "fish" => some fish
  | "powershell" => some powershell
  | "zsh" => some zsh
  | _ => none

/-- The options that every command takes. -/
structure CommonOptions where
  /-- The settings file, or the folder that holds it. -/
  config : Option String := none
  /-- How much is logged. -/
  verbosity : Verbosity := {}
  /-- Whether the settings are shown as JSON. -/
  json : Bool := false
  /-- When log lines are colored. -/
  color : ColorMode := .auto
  /-- Whether the settings file is left alone. -/
  dryRun : Bool := false
  deriving DecidableEq, Inhabited

/-- The options of a hub that is to serve. -/
structure ServeOptions where
  /-- The address, if it is not that of the settings. -/
  host : Option String := none
  /-- The port, if it is not that of the settings. -/
  port : Option Nat := none
  /-- Whether what an earlier run has left in the cluster is deleted. -/
  cleanup : Bool := true
  deriving DecidableEq, Inhabited

/-- What the hub is asked to do. -/
inductive Command where
  /-- Serve until it is told to stop. -/
  | serve (options : ServeOptions)
  /-- Write the settings file, if it is missing or `force` is set. -/
  | create (force : Bool)
  /-- Show the settings in effect. -/
  | showSettings
  /-- Show where the settings file is. -/
  | showPath
  /-- Write the settings file anew. -/
  | reset
  /-- Write completions for a shell. -/
  | completions (shell : CompletionShell)
  deriving DecidableEq, Inhabited

/-- What the user asks for. -/
structure CommandLine where
  /-- The options. -/
  options : CommonOptions := {}
  /-- The command. -/
  command : Command
  deriving DecidableEq, Inhabited

end BrowserGrid
