import BrowserGrid.Exec.Driver
import BrowserGrid.Exec.Pipe
/-!
# A simulated execution

The remote command follows a script of events, a millisecond apart.  An `Execution` joins the script
to a driver: two pipes, the signal that ends the command, the report of its exit, and the handle
through which the caller sees all of it.
-/

namespace BrowserGrid.Simulation

open Exec

/-- What a remote command does. -/
inductive ScriptEvent where
  /-- It writes to its output. -/
  | stdout (bytes : List UInt8)
  /-- It writes to its error stream. -/
  | stderr (bytes : List UInt8)
  /-- It closes its output. -/
  | closeStdout
  /-- It closes its error stream. -/
  | closeStderr
  /-- It sleeps for some milliseconds. -/
  | sleep (ms : Nat)
  /-- It waits for the signal that ends it. -/
  | awaitKill
  /-- Its exit is reported. -/
  | exit (exit : ExecExit)
  deriving DecidableEq, Inhabited

/-- The signal that ends a remote command. -/
inductive KillSignal where
  /-- It has not been fired. -/
  | armed
  /-- It has been fired. -/
  | fired
  /-- It will never be fired. -/
  | gone
  deriving DecidableEq, Inhabited

/-- The execution of a remote command. -/
structure Execution where
  /-- The pod. -/
  pod : String
  /-- The command. -/
  command : List String
  /-- The driver. -/
  driver : Driver
  /-- The output of the command. -/
  stdout : Pipe := {}
  /-- The error stream of the command. -/
  stderr : Pipe := {}
  /-- The signal that ends the command. -/
  kill : KillSignal := .armed
  /-- The report of the command's exit. -/
  exit : Option ExecExit := none
  /-- How many requests for the end the driver has not taken. -/
  closeRequests : Nat := 0
  /-- Whether the caller has let go of its handle. -/
  handleGone : Bool := false
  /-- Whether the caller has waited for the connection. -/
  awaited : Bool := false
  /-- Whether the handle holds the output for the caller to take. -/
  holdsOutput : Bool := false
  deriving Inhabited

namespace Execution

/-- The description. -/
def description (x : Execution) : String := execDescription x.command x.pod

/-- Whether the transport has ever been connected. -/
def wasOpened (x : Execution) : Bool := x.driver.published.contains .opened

/-- Whether the driver has ended without a connection. -/
def neverOpens (x : Execution) : Bool := x.driver.phase = .ended && !x.wasOpened

/-- The failure of an execution that never was connected. -/
def openFailure (x : Execution) : ClusterError :=
  .execFailed (x.description ++ ": " ++
    match x.driver.state with
    | .failed reason => reason
    | .created => "transport ended in state Created"
    | .opened => "transport ended in state Opened"
    | .closed => "transport ended in state Closed")

/-- The caller learns that the transport is connected and is handed the output. -/
def handOver (x : Execution) : Execution :=
  { x with awaited := true, holdsOutput := !x.driver.options.captureStdout }

/-- What a caller that waits for the connection is told, if it need not wait any longer.  Only the
first wait takes the output or learns of a failure, and any later one is over at once. -/
def awaitOpen (x : Execution) : Option (Except ClusterError Unit) × Execution :=
  if x.awaited then (some (.ok ()), x)
  else if x.wasOpened then (some (.ok ()), x.handOver)
  else if x.neverOpens then (some (.error x.openFailure), { x with awaited := true })
  else (none, x)

/-- A caller gives up its wait for the connection; that was the first wait, or an earlier one was. -/
def abandonOpen (x : Execution) : Execution := { x with awaited := true }

/-- The end that is reported of the command; that nobody will report it is a report, too. -/
def report (x : Execution) (exit : ExecExit) : Execution :=
  if x.exit.isNone then { x with exit := some exit } else x

/-- The driver learns something; a first signal to end the command reaches the command. -/
def tell (x : Execution) (e : Event) : Execution :=
  let driver := x.driver.on e
  { x with
    driver
    kill := if driver.killed && x.kill = .armed then .fired else x.kill }

end Execution

end BrowserGrid.Simulation
