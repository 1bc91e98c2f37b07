import BrowserGrid.CommandLine
import BrowserGrid.Text.Integer
/-!
# The words of the command line

Commands stand inside one another: a `Level` is the place of a command, with the commands, flags and
keys that may follow it.  A flag stands alone and a key is followed by a value; both have a long
name, and some have a letter.
-/

namespace BrowserGrid.CommandLine

/-- The place of a command. -/
inductive Level where
  /-- The program itself. -/
  | root
  /-- Serving. -/
  | serve
  /-- Writing the settings file. -/
  | create
  /-- The commands about settings. -/
  | config
  /-- Showing the settings. -/
  | showSettings
  /-- Showing the path of the settings file. -/
  | showPath
  /-- Writing the settings file anew. -/
  | reset
  /-- Completions. -/
  | completions
  /-- Explanations. -/
  | help
  deriving DecidableEq, Inhabited

/-- Options that stand alone. -/
inductive Flag where
  /-- Log errors only. -/
  | quiet
  /-- Log more; may be repeated. -/
  | verbose
  /-- Log how things happen. -/
  | debug
  /-- Log everything. -/
  | trace
  /-- Show the settings as JSON. -/
  | json
  /-- Leave the settings file alone. -/
  | dryRun
  /-- Leave the cluster alone. -/
  | noCleanup
  /-- Replace the settings file. -/
  | force
  /-- Explain. -/
  | help
  /-- Show the version. -/
  | version
  deriving DecidableEq, Inhabited

/-- Options that are followed by a value. -/
inductive Key where
  /-- The settings file. -/
  | config
  /-- When log lines are colored. -/
  | color
  /-- The address. -/
  | host
  /-- The port. -/
  | port
  deriving DecidableEq, Inhabited

namespace Level

/-- The commands inside a command. -/
def children : Level → List (String × Level)
  | root => [("serve", serve), ("init", create), ("config", config), ("completions", completions),
      ("help", help)]
  | config => [("show", showSettings), ("path", showPath), ("reset", reset), ("help", help)]
  | serve | create | showSettings | showPath | reset | completions | help => []

/-- The command of a name inside a command. -/
def child? (level : Level) (name : String) : Option Level :=
  (level.children.find? (·.1 = name)).map (·.2)

/-- The name that a command has with those around it. -/
def fullName : Level → String
  | root => "gridhub"
  | serve => "gridhub-serve"
  | create => "gridhub-init"
  | config => "gridhub-config"
  | showSettings => "gridhub-config-show"
  | showPath => "gridhub-config-path"
  | reset => "gridhub-config-reset"
  | completions => "gridhub-completions"
  | help => "gridhub-help"

/-- The flags of every command. -/
def commonFlags : List (String × Flag) :=
  [("quiet", .quiet), ("verbose", .verbose), ("debug", .debug), ("trace", .trace), ("json", .json),
    ("dry-run", .dryRun), ("help", .help), ("version", .version)]

/-- The flags of a command by their long names. -/
def flags : Level → List (String × Flag)
  | serve => ("no-cleanup", .noCleanup) :: commonFlags
  | create => ("force", .force) :: commonFlags
  | _ => commonFlags

/-- The keys of every command. -/
def commonKeys : List (String × Key) := [("config", .config), ("color", .color)]

/-- The keys of a command by their long names. -/
def keys : Level → List (String × Key)
  | serve => ("host", .host) :: ("port", .port) :: commonKeys
  | _ => commonKeys

/-- The flag of a long name. -/
def flag? (level : Level) (name : String) : Option Flag :=
  (level.flags.find? (·.1 = name)).map (·.2)

/-- The key of a long name. -/
def key? (level : Level) (name : String) : Option Key :=
  (level.keys.find? (·.1 = name)).map (·.2)

/-- The flag of a letter. -/
def letterFlag? : Char → Option Flag
  | 'q' => some .quiet
  | 'v' => some .verbose
  | 'h' => some .help
  | 'V' => some .version
  | _ => none

/-- The key of a letter. -/
def letterKey? (level : Level) (c : Char) : Option Key :=
  if level = serve ∧ c = 'p' then some .port else none

end Level

/-- The port that a text writes, which may have a sign. -/
def portOf? (text : String) : Option Nat := (Text.integer? 0 Text.maxPort text).map Int.toNat

/-- Whether a text is a value of a key. -/
def Key.takes : Key → String → Bool
  | config, value => !value.isEmpty
  | color, value => (ColorMode.ofName? value).isSome
  | host, _ => true
  | port, value => (portOf? value).isSome

end BrowserGrid.CommandLine
