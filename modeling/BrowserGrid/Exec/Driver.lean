import BrowserGrid.Exec
/-!
# The driver of an execution

One driver owns the transport of an execution.  It learns of events one at a time (`Event`), and
`Driver.on` says what each of them does: to the state that callers see, to the collected output, and
to the signal that ends the remote command, which is fired at most once.

After the exit is known the driver still drains the error stream and then waits for the end of the
collected output, each for at most `drainGrace`; what it reads in the first of these waits counts
only if the stream ends in time.
-/

namespace BrowserGrid.Exec

/-- The milliseconds for which the driver goes on reading once the command has exited. -/
def drainGrace : Nat := 2000

/-- The bytes that the driver reads at once. -/
def readSize : Nat := 4096

/-- What the driver learns. -/
inductive Event where
  /-- The transport is connected. -/
  | connected
  /-- The transport refused. -/
  | refused (error : ClusterError)
  /-- The error stream gave bytes, at least one. -/
  | stderr (bytes : List UInt8)
  /-- The error stream has ended. -/
  | stderrEnd
  /-- The error stream has failed. -/
  | stderrError
  /-- The output stream, which is collected, gave bytes. -/
  | stdout (bytes : List UInt8)
  /-- The output stream, which is collected, has ended or failed. -/
  | stdoutEnd
  /-- A caller asked for the end, or the last handle is gone. -/
  | closeRequest
  /-- The end of the command is known. -/
  | exited (exit : ExecExit)
  /-- The wait for the end of a stream has taken too long. -/
  | graceOver
  deriving DecidableEq, Inhabited

/-- Where the driver stands. -/
inductive Phase where
  /-- It connects the transport. -/
  | connecting
  /-- The command runs. -/
  | running
  /-- The command has exited; the rest of the error stream is being read. -/
  | draining (exit : ExecExit) (rest : List UInt8)
  /-- The error stream is done; the collected output is not. -/
  | collecting (exit : ExecExit)
  /-- The last state has been published. -/
  | ended
  deriving DecidableEq, Inhabited

/-- The driver of an execution. -/
structure Driver where
  /-- How the command is executed. -/
  options : ExecOptions
  /-- Where the driver stands. -/
  phase : Phase := .connecting
  /-- The published states, the last one first. -/
  published : List ExecState := [.created]
  /-- Whether the error stream may give more. -/
  stderrOpen : Bool := true
  /-- Whether the output is still being collected. -/
  collecting : Bool := false
  /-- What the command wrote to its error stream first, if that ends it. -/
  complaint : Option String := none
  /-- Whether a request for the end was taken. -/
  closedByCaller : Bool := false
  /-- Whether the signal that ends the command has been fired. -/
  killed : Bool := false
  /-- What has been collected. -/
  output : List UInt8 := []
  deriving DecidableEq, Inhabited

namespace Driver

/-- The published state. -/
def state (d : Driver) : ExecState := d.published.headD .created

/-- Publish a state. -/
def publish (d : Driver) (s : ExecState) : Driver := { d with published := s :: d.published }

/-- Collect bytes. -/
def collect (d : Driver) (bytes : List UInt8) : Driver := { d with output := d.output ++ bytes }

/-- Publish how the execution ended. -/
def conclude (d : Driver) (exit : ExecExit) : Driver :=
  { d.publish (.verdict d.complaint d.closedByCaller exit) with phase := .ended }

/-- Go on when the error stream is done: wait for the collected output, or conclude. -/
def afterStderr (d : Driver) (exit : ExecExit) : Driver :=
  if d.collecting then { d with phase := .collecting exit } else d.conclude exit

/-- The transport is connected. -/
def connect (d : Driver) : Driver :=
  { d.publish .opened with phase := .running, collecting := d.options.captureStdout }

/-- The transport refused: the execution ends here. -/
def refuse (d : Driver) (error : ClusterError) : Driver :=
  { d.publish (.failed error.message) with phase := .ended }

/-- Bytes from the error stream while the command runs; the first ones may end it. -/
def hear (d : Driver) (bytes : List UInt8) : Driver :=
  let d := d.collect bytes
  if d.options.closeOnStderr ∧ d.complaint = none then
    { d with complaint := some (complaintOf bytes), killed := true }
  else d

/-- What an event does. -/
def on (d : Driver) : Event → Driver
  | .connected =>
    match d.phase with
    | .connecting => d.connect
    | _ => d
  | .refused error =>
    match d.phase with
    | .connecting => d.refuse error
    | _ => d
  | .stderr bytes =>
    match d.phase with
    | .running => d.hear bytes
    | .draining exit rest => { d with phase := .draining exit (rest ++ bytes) }
    | _ => d
  | .stderrEnd =>
    match d.phase with
    | .running => { d with stderrOpen := false }
    | .draining exit rest => ({ d with stderrOpen := false }.collect rest).afterStderr exit
    | _ => d
  | .stderrError =>
    match d.phase with
    | .running => { d with stderrOpen := false }
    | .draining exit _ => { d with stderrOpen := false }.afterStderr exit
    | _ => d
  | .stdout bytes => if d.collecting then d.collect bytes else d
  | .stdoutEnd =>
    match d.phase with
    | .collecting exit => { d with collecting := false }.conclude exit
    | _ => { d with collecting := false }
  | .closeRequest =>
    match d.phase with
    | .running => if d.killed then d else { d with closedByCaller := true, killed := true }
    | _ => d
  | .exited exit =>
    match d.phase with
    | .running =>
      if d.stderrOpen then { d with phase := .draining exit [] } else d.afterStderr exit
    | _ => d
  | .graceOver =>
    match d.phase with
    | .draining exit _ => d.afterStderr exit
    | .collecting exit => d.conclude exit
    | _ => d

/-- The driver of a fresh execution. -/
def start (options : ExecOptions) : Driver := { options }

end Driver

end BrowserGrid.Exec
