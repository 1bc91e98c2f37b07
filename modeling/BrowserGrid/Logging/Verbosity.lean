import BrowserGrid.Text.Ascii
/-!
# How much is logged

The flags of the command line win over the configured level (`Verbosity.level`); a configured level
that is no level stands for `info`.
-/

namespace BrowserGrid

/-- The levels of logging. -/
inductive LogLevel where
  /-- Nothing. -/
  | off
  /-- Errors. -/
  | error
  /-- Also warnings. -/
  | warn
  /-- Also what happens. -/
  | info
  /-- Also how it happens. -/
  | debug
  /-- Everything. -/
  | trace
  deriving DecidableEq, Inhabited

namespace LogLevel

/-- The name of a level. -/
def name : LogLevel → String
  | off => "OFF"
  | error => "ERROR"
  | warn => "WARN"
  | info => "INFO"
  | debug => "DEBUG"
  | trace => "TRACE"

/-- The level of a name in letters of either case. -/
def ofName? (name : String) : Option LogLevel :=
  [off, error, warn, info, debug, trace].find? fun level => Text.sameIgnoringCase level.name name

/-- How much a level logs. -/
def rank : LogLevel → Nat
  | off => 0
  | error => 1
  | warn => 2
  | info => 3
  | debug => 4
  | trace => 5

end LogLevel

/-- The flags of the command line. -/
structure Verbosity where
  /-- Log errors only. -/
  quiet : Bool := false
  /-- How often more was asked for. -/
  verbose : Nat := 0
  /-- Log how things happen. -/
  debug : Bool := false
  /-- Log everything. -/
  trace : Bool := false
  deriving DecidableEq, Inhabited

/-- The level for flags and a configured level. -/
def Verbosity.level (v : Verbosity) (configured : String) : LogLevel :=
  if v.trace || v.verbose ≥ 2 then .trace
  else if v.debug || v.verbose = 1 then .debug
  else if v.quiet then .error
  else (LogLevel.ofName? configured).getD .info

end BrowserGrid
