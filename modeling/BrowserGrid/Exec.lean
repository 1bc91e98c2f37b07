import BrowserGrid.Cluster.Error
import BrowserGrid.Text.Blank
import BrowserGrid.Text.Utf8
/-!
# Commands executed inside pods

An execution is created, opens when its streams are connected, and ends closed or failed.
`ExecState.verdict` is the end that follows from what happened in between: what the command wrote
to its error stream counts before a close by the caller, and that before the command's own exit.
-/

namespace BrowserGrid

/-- The states of an execution. -/
inductive ExecState where
  /-- The streams are not connected. -/
  | created
  /-- The streams are connected. -/
  | opened
  /-- The command succeeded, or its caller closed it. -/
  | closed
  /-- The command could not be started, or it failed. -/
  | failed (reason : String)
  deriving DecidableEq, Inhabited

/-- How a command is executed. -/
structure ExecOptions where
  /-- Collect the output of the command instead of handing it to the caller. -/
  captureStdout : Bool := false
  /-- End the command as soon as it writes to its error stream. -/
  closeOnStderr : Bool := false
  deriving DecidableEq, Inhabited

/-- What becomes known of the end of a remote command. -/
inductive ExecExit where
  /-- It exited with a code. -/
  | code (code : Int)
  /-- A signal ended it. -/
  | signal
  /-- The transport reported a failure. -/
  | failed (error : ClusterError)
  /-- Nothing: whoever was to report it is gone. -/
  | lost
  deriving DecidableEq, Inhabited

namespace ExecState

/-- Whether a state is the last one. -/
def isTerminal : ExecState → Bool
  | closed | failed _ => true
  | created | opened => false

/-- The end that a command's own exit stands for. -/
def ofExit : ExecExit → ExecState
  | .code 0 => closed
  | .code code => failed ("exited with code " ++ toString code)
  | .signal => failed "terminated by signal"
  | .failed error => failed error.message
  | .lost => failed "transport dropped"

/-- The end of an execution: `complaint` is what ended the command on its error stream. -/
def verdict (complaint : Option String) (closedByCaller : Bool) (exit : ExecExit) : ExecState :=
  match complaint with
  | some message => failed ("remote command failed: " ++ message)
  | none => if closedByCaller then closed else ofExit exit

end ExecState

/-- What a read from the error stream says: its text, trimmed. -/
def complaintOf (bytes : List UInt8) : String := Text.trim (Utf8.decodeLossy bytes)

/-- The description of an execution. -/
def execDescription (command : List String) (pod : String) : String :=
  " ".intercalate command ++ " in " ++ pod

end BrowserGrid
