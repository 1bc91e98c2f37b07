import BrowserGrid.CommandLine.Grammar
import BrowserGrid.Text.Ascii
/-!
# Reading the command line

`CommandLine.read` goes through the arguments from left to right.  What each command is given makes
a `Reading`; a value that follows its key as an argument of its own is only looked at when the next
option comes or the command ends, which is after the commands inside it.  Options of every command
may stand at any of them, and the innermost counts.
-/

namespace BrowserGrid.CommandLine

/-- Why the arguments are not read to their end. -/
inductive Interruption where
  /-- They make no sense. -/
  | misuse
  /-- They ask for an explanation of a command. -/
  | help (level : Level)
  /-- They ask for the version. -/
  | version (level : Level)
  deriving DecidableEq, Inhabited

/-- What one command is given. -/
structure Reading where
  /-- The flags, the last one first. -/
  flags : List Flag := []
  /-- The keys and their values. -/
  values : List (Key × String) := []
  /-- The key that was read last, if its value was not looked at or has not come. -/
  pending : Option (Key × Option String) := none
  /-- What stands alone. -/
  operand : Option CompletionShell := none
  deriving DecidableEq, Inhabited

namespace Reading

/-- Give a key its value; it must fit, and a key has only one. -/
def put (r : Reading) (key : Key) (value : String) : Except Interruption Reading :=
  if r.values.any (·.1 = key) ∨ !key.takes value then .error .misuse
  else .ok { r with values := (key, value) :: r.values }

/-- Look at the value of the key that was read last. -/
def settle (r : Reading) : Except Interruption Reading :=
  match r.pending with
  | none => .ok r
  | some (_, none) => .error .misuse
  | some (key, some value) => put { r with pending := none } key value

/-- Read a flag of a command; only `verbose` may be repeated. -/
def raise (r : Reading) (level : Level) (flag : Flag) : Except Interruption Reading := do
  let r ← r.settle
  match flag with
  | .help => .error (.help level)
  | .version => .error (.version level)
  | .verbose => .ok { r with flags := flag :: r.flags }
  | _ =>
    if r.flags.contains flag then .error .misuse else .ok { r with flags := flag :: r.flags }

/-- Read a key whose value is still to come. -/
def expect (r : Reading) (key : Key) : Except Interruption Reading := do
  return { (← r.settle) with pending := some (key, none) }

/-- Read a key with its value. -/
def assign (r : Reading) (key : Key) (value : String) : Except Interruption Reading := do
  (← r.settle).put key value

/-- Read what stands alone: only completions take that, and only once. -/
def stand (r : Reading) (level : Level) (text : String) : Except Interruption Reading := do
  let r ← r.settle
  match level, r.operand, CompletionShell.ofName? text with
  | .completions, none, some shell => .ok { r with operand := some shell }
  | _, _, _ => .error .misuse

/-- Read an argument after two hyphens. -/
def long (r : Reading) (level : Level) (text : String) : Except Interruption Reading :=
  match Text.cut? "=" text with
  | none =>
    match level.flag? text, level.key? text with
    | some flag, _ => r.raise level flag
    | none, some key => r.expect key
    | none, none => .error .misuse
  | some (name, value) =>
    match level.key? name with
    | some key => r.assign key value
    | none => .error .misuse

/-- Read letters after a hyphen; those after the letter of a key are its value. -/
def letters (r : Reading) (level : Level) : List Char → Except Interruption Reading
  | [] => .ok r
  | c :: rest =>
    match Level.letterFlag? c, level.letterKey? c with
    | some flag, _ => do letters (← r.raise level flag) level rest
    | none, some key =>
      match rest with
      | [] => r.expect key
      | '=' :: value => r.assign key (String.ofList value)
      | value => r.assign key (String.ofList value)
    | none, none => .error .misuse

/-- Read an argument that is no command. -/
def argument (r : Reading) (level : Level) (text : String) : Except Interruption Reading :=
  match text.toList with
  | '-' :: '-' :: rest => r.long level (String.ofList rest)
  | '-' :: c :: rest => r.letters level (c :: rest)
  | _ =>
    match r.pending with
    | some (key, none) => .ok { r with pending := some (key, some text) }
    | _ => r.stand level text

/-- Whether the next argument is the value of a key unless it is an option. -/
def isWaiting (r : Reading) : Bool :=
  match r.pending with
  | some (_, none) => true
  | _ => false

/-- The value of a key. -/
def value? (r : Reading) (key : Key) : Option String := (r.values.find? (·.1 = key)).map (·.2)

end Reading

/-! ### All arguments -/

/-- What all commands are given. -/
structure Line where
  /-- The innermost command. -/
  level : Level
  /-- What it is given. -/
  innermost : Reading
  /-- What the commands around it are given, from the inside to the outside. -/
  outer : List Reading := []
  deriving DecidableEq, Inhabited

/-- The command that names lead to. -/
def helpTarget (level : Level) : List String → Except Interruption Level
  | [] => .ok level
  | name :: rest =>
    match level.child? name with
    | some inner => helpTarget inner rest
    | none => .error .misuse

/-- Read the arguments after a pair of hyphens, none of which is an option. -/
def readLiteral (level : Level) (r : Reading) : List String → Except Interruption Line
  | [] => do return { level, innermost := ← r.settle }
  | text :: rest => do readLiteral level (← r.stand level text) rest

/-- Read the arguments of a command. -/
def readLevel (level : Level) (r : Reading) : List String → Except Interruption Line
  | [] => do return { level, innermost := ← r.settle }
  | text :: rest =>
    match if r.isWaiting then none else level.child? text with
    | some .help => do .error (.help (← helpTarget level rest))
    | some inner => do
      let line ← readLevel inner {} rest
      return { line with outer := line.outer ++ [← r.settle] }
    | none =>
      if text = "--" then readLiteral level r rest
      else do readLevel level (← r.argument level text) rest

/-! ### The meaning -/

namespace Line

/-- What all commands are given, the innermost first. -/
def readings (line : Line) : List Reading := line.innermost :: line.outer

/-- Whether a flag is set anywhere. -/
def has (line : Line) (flag : Flag) : Bool := line.readings.any (·.flags.contains flag)

/-- The value of a key, that of the innermost command that has one. -/
def value? (line : Line) (key : Key) : Option String := line.readings.findSome? (·.value? key)

/-- How often more logging is asked for at the innermost command that does. -/
def verbose (line : Line) : Nat :=
  ((line.readings.map (·.flags.count .verbose)).find? (· ≠ 0)).getD 0

/-- How much is to be logged. -/
def verbosity (line : Line) : Verbosity where
  quiet := line.has .quiet
  verbose := line.verbose
  debug := line.has .debug
  trace := line.has .trace

/-- The options that every command takes. -/
def options (line : Line) : CommonOptions where
  config := line.value? .config
  verbosity := line.verbosity
  json := line.has .json
  color := ((line.value? .color).bind ColorMode.ofName?).getD .auto
  dryRun := line.has .dryRun

/-- The command; one that only holds others is none. -/
def command? (line : Line) : Option Command :=
  match line.level with
  | .serve => some (.serve
      { host := line.value? .host
        port := (line.value? .port).bind portOf?
        cleanup := !line.has .noCleanup })
  | .create => some (.create (line.has .force))
  | .showSettings => some .showSettings
  | .showPath => some .showPath
  | .reset => some .reset
  | .completions => line.innermost.operand.map .completions
  | .root | .config | .help => none

end Line

/-- What the arguments ask for. -/
def read (arguments : List String) : Except Interruption CommandLine := do
  let line ← readLevel .root {} arguments
  match line.command? with
  | some command => return { options := line.options, command }
  | none => .error .misuse

end BrowserGrid.CommandLine
