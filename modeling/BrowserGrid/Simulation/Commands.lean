import BrowserGrid.Simulation.World
/-!
# Jobs of executions

The driver of an execution, the collector of its output, the script of the remote command, and the
callers that wait for it or read from it: each function polls a job of one kind, that is, lets it do
what it can do now.
-/

namespace BrowserGrid.Simulation.Sim

open Exec

/-! ### The driver -/

/-- The driver learns something; who waits for its state or for the signal to end is told. -/
def tell (id : ExecutionId) (e : Event) : Sim Unit := do
  let before := (← get).execution id
  modifyExecution id (·.tell e)
  let after := (← get).execution id
  if before.kill ≠ after.kill then raise (.execution id .kill)
  if before.driver.state ≠ after.driver.state then raise (.execution id .state)

/-- Read from the error stream. -/
def readStderr (id : ExecutionId) (max : Nat) : Sim Pipe.Read := do
  let (result, stderr) := ((← get).execution id).stderr.read max
  modifyExecution id ({ · with stderr })
  match result with
  | .bytes _ => raise (.execution id .stderrRoom)
  | _ => pure ()
  return result

/-- Read from the output. -/
def readStdout (id : ExecutionId) (max : Nat) : Sim Pipe.Read := do
  let (result, stdout) := ((← get).execution id).stdout.read max
  modifyExecution id ({ · with stdout })
  match result with
  | .bytes _ => raise (.execution id .stdoutRoom)
  | _ => pure ()
  return result

/-- Connect the transport: the remote command is started, and its output collected if need be. -/
def connect (id : ExecutionId) : Sim Unit := do
  let x := (← get).execution id
  note (.exec x.pod x.command)
  let (failure, cluster) := (← get).cluster.takeFailure "exec"
  modify ({ · with cluster })
  match failure with
  | some error => tell id (.refused error)
  | none =>
    if cluster.pods.contains x.pod then
      let start ← spawn (.play id (← get).script (.pause 0))
      modify fun w => { w with
        tasks := w.tasks.map fun t =>
          if t.id = start then { t with job := .play id w.script (.pause (w.now + 1)) } else t }
      setAlarm start ((← get).now + 1)
      if x.driver.options.captureStdout then let _ ← spawn (.collect id)
      tell id .connected
    else tell id (.refused (.podNotFound x.pod))

/-- Take one thing that has happened while the command runs; nothing if nothing has. -/
def driveOnce (id : ExecutionId) : Sim Bool := do
  let x := (← get).execution id
  let heard ← if x.driver.stderrOpen then readStderr id readSize else pure .blocked
  match heard with
  | .bytes bytes => tell id (.stderr bytes); return true
  | .ended => tell id .stderrEnd; return true
  | .blocked =>
    if !x.driver.killed && (x.closeRequests > 0 || x.handleGone) then
      modifyExecution id fun x => { x with closeRequests := x.closeRequests - 1 }
      tell id .closeRequest
      return true
    else
      match x.exit with
      | some exit => tell id (.exited exit); return true
      | none => return false

/-- Take everything that has happened while the command runs. -/
def driveAll (id : ExecutionId) : (fuel : Nat) → Sim Unit
  | 0 => return ()
  | fuel + 1 => do
    if ((← get).execution id).driver.phase = .running then
      if ← driveOnce id then driveAll id fuel

/-- Read the rest of the error stream. -/
def drain (id : ExecutionId) : (fuel : Nat) → Sim Unit
  | 0 => return ()
  | fuel + 1 => do
    match ← readStderr id Pipe.capacity with
    | .bytes bytes => tell id (.stderr bytes); drain id fuel
    | .ended => tell id .stderrEnd
    | .blocked => return ()

/-- The driver has ended: it lets go of what it owns. -/
def closeDriver (id : ExecutionId) : Sim Unit := do
  modifyExecution id fun x => { x with
    stderr := x.stderr.closeReader
    kill := if x.kill = .armed then .gone else x.kill }
  raise (.execution id .stderrRoom)
  raise (.execution id .kill)

/-- Whether the driver reads on after the exit of the command. -/
def inGrace (d : Driver) : Bool :=
  match d.phase with
  | .draining .. | .collecting _ => true
  | _ => false

/-- The steps that are enough for a driver to take what there is. -/
def driveFuel (x : Execution) : Nat := x.stderr.buffer.length + x.closeRequests + 8

/-- Poll the driver of an execution. -/
def pollDrive (self : TaskId) (id : ExecutionId) (graceUntil : Nat) : Sim Poll := do
  if ((← get).execution id).driver.phase = .connecting then connect id
  let wasRunning := ((← get).execution id).driver.phase = .running
  driveAll id (driveFuel ((← get).execution id))
  let mut graceUntil := graceUntil
  if wasRunning && inGrace ((← get).execution id).driver then
    graceUntil := (← get).now + drainGrace
    setAlarm self graceUntil
  if let .draining .. := ((← get).execution id).driver.phase then
    drain id (driveFuel ((← get).execution id))
    if let .draining .. := ((← get).execution id).driver.phase then
      if (← get).now ≥ graceUntil then tell id .graceOver
    if let .collecting _ := ((← get).execution id).driver.phase then
      clearAlarms self
      graceUntil := (← get).now + drainGrace
      setAlarm self graceUntil
  else if let .collecting _ := ((← get).execution id).driver.phase then
    if (← get).now ≥ graceUntil then tell id .graceOver
  match ((← get).execution id).driver.phase with
  | .ended =>
    closeDriver id
    return .done .nothing
  | .draining .. => return .waits (.drive id graceUntil) [.execution id .stderrData]
  | .collecting _ => return .waits (.drive id graceUntil) [.execution id .collected]
  | _ =>
    return .waits (.drive id graceUntil)
      [.execution id .stderrData, .execution id .close, .execution id .exit]

/-- Collect the output. -/
def collectAll (id : ExecutionId) : (fuel : Nat) → Sim Bool
  | 0 => return false
  | fuel + 1 => do
    match ← readStdout id readSize with
    | .bytes bytes => tell id (.stdout bytes); collectAll id fuel
    | .ended => return true
    | .blocked => return false

/-- Poll the collector of an output. -/
def pollCollect (id : ExecutionId) : Sim Poll := do
  if ← collectAll id (((← get).execution id).stdout.buffer.length + 2) then
    tell id .stdoutEnd
    raise (.execution id .collected)
    return .done .nothing
  else return .waits (.collect id) [.execution id .stdoutData]

/-! ### The remote command -/

/-- Write to the output. -/
def writeStdout (id : ExecutionId) (bytes : List UInt8) : Sim Pipe.Write := do
  let (result, stdout) := ((← get).execution id).stdout.write bytes
  modifyExecution id ({ · with stdout })
  raise (.execution id .stdoutData)
  return result

/-- Write to the error stream. -/
def writeStderr (id : ExecutionId) (bytes : List UInt8) : Sim Pipe.Write := do
  let (result, stderr) := ((← get).execution id).stderr.write bytes
  modifyExecution id ({ · with stderr })
  raise (.execution id .stderrData)
  return result

/-- Pause before the next event. -/
def pause (self : TaskId) (id : ExecutionId) (events : List ScriptEvent) : Sim Poll := do
  let until_ := (← get).now + 1
  setAlarm self until_
  return .waits (.play id events (.pause until_)) []

/-- The script of a remote command is over. -/
def endScript (id : ExecutionId) : Sim Poll := do
  modifyExecution id fun x => { x with
    stdout := x.stdout.closeWriter, stderr := x.stderr.closeWriter }
  modifyExecution id (·.report .lost)
  raise (.execution id .stdoutData)
  raise (.execution id .stderrData)
  raise (.execution id .exit)
  return .done .nothing

/-- Go on after a write to the output. -/
def afterStdout (self : TaskId) (id : ExecutionId) (events : List ScriptEvent) :
    Pipe.Write → Sim Poll
  | .blocked rest => return .waits (.play id events (.stdout rest)) [.execution id .stdoutRoom]
  | _ => pause self id events

/-- Go on after a write to the error stream. -/
def afterStderr (self : TaskId) (id : ExecutionId) (events : List ScriptEvent) :
    Pipe.Write → Sim Poll
  | .blocked rest => return .waits (.play id events (.stderr rest)) [.execution id .stderrRoom]
  | _ => pause self id events

/-- Wait for the signal that ends the command, and note it. -/
def awaitKill (self : TaskId) (id : ExecutionId) (events : List ScriptEvent) : Sim Poll := do
  match ((← get).execution id).kill with
  | .armed => return .waits (.play id events .kill) [.execution id .kill]
  | .fired => note (.killed true); pause self id events
  | .gone => note (.killed false); pause self id events

/-- Perform an event; others follow. -/
def performEvent (self : TaskId) (id : ExecutionId) (events : List ScriptEvent) :
    ScriptEvent → Sim Poll
  | .stdout bytes => do afterStdout self id events (← writeStdout id bytes)
  | .stderr bytes => do afterStderr self id events (← writeStderr id bytes)
  | .closeStdout => do
    modifyExecution id fun x => { x with stdout := x.stdout.closeWriter }
    raise (.execution id .stdoutData)
    pause self id events
  | .closeStderr => do
    modifyExecution id fun x => { x with stderr := x.stderr.closeWriter }
    raise (.execution id .stderrData)
    pause self id events
  | .sleep ms => do
    if ms = 0 then pause self id events
    else
      let until_ := (← get).now + ms
      setAlarm self until_
      return .waits (.play id events (.sleep until_)) []
  | .awaitKill => awaitKill self id events
  | .exit exit => do
    modifyExecution id (·.report exit)
    raise (.execution id .exit)
    pause self id events

/-- Poll the script of a remote command. -/
def pollPlay (self : TaskId) (id : ExecutionId) (events : List ScriptEvent)
    (phase : ScriptPhase) : Sim Poll := do
  let now := (← get).now
  match phase with
  | .pause until_ =>
    if now < until_ then return .waits (.play id events phase) []
    else
      match events with
      | [] => endScript id
      | event :: rest => performEvent self id rest event
  | .stdout rest => afterStdout self id events (← writeStdout id rest)
  | .stderr rest => afterStderr self id events (← writeStderr id rest)
  | .sleep until_ =>
    if now < until_ then return .waits (.play id events phase) [] else pause self id events
  | .kill => awaitKill self id events

/-! ### The caller -/

/-- Start to execute a command in a pod. -/
def execute (pod : String) (command : List String) (options : ExecOptions) :
    Sim ExecutionId := do
  let id := (← get).executions.length
  modify fun w => { w with
    executions := w.executions ++ [{ pod, command, driver := .start options }] }
  let _ ← spawn (.drive id 0)
  return id

/-- Ask for the end of an execution. -/
def close (id : ExecutionId) : Sim Unit := do
  modifyExecution id fun x => { x with closeRequests := x.closeRequests + 1 }
  raise (.execution id .close)

/-- Let go of an execution, and of its output unless that is collected. -/
def dropExecution (id : ExecutionId) : Sim Unit := do
  modifyExecution id fun x => { x with
    handleGone := true
    stdout := if x.driver.options.captureStdout then x.stdout else x.stdout.closeReader }
  raise (.execution id .close)
  raise (.execution id .stdoutRoom)

/-- Poll a caller that waits for the end of an execution. -/
def pollFinish (id : ExecutionId) (wanted : Bool) : Sim Poll := do
  let x := (← get).execution id
  if x.driver.state.isTerminal then
    close id
    dropExecution id
    return .done (if wanted then .execution (.ok x.driver.state) else .nothing)
  else return .waits (.finish id wanted) [.execution id .state]

/-- Poll a caller that has read a folder and waits for the end of the command. -/
def pollCopied (id : ExecutionId) (got : List UInt8) : Sim Poll := do
  let x := (← get).execution id
  if x.driver.state.isTerminal then
    dropExecution id
    return .done (.copied got x.driver.state x.driver.output)
  else return .waits (.copied id got) [.execution id .state]

/-- Read what there is of an output; also whether it has ended. -/
def readOn (id : ExecutionId) : (fuel : Nat) → List UInt8 → Sim (Bool × List UInt8)
  | 0, got => return (false, got)
  | fuel + 1, got => do
    match ← readStdout id Pipe.capacity with
    | .bytes bytes => readOn id fuel (got ++ bytes)
    | .ended => return (true, got)
    | .blocked => return (false, got)

/-- Poll a caller that reads a folder. -/
def pollCopy (id : ExecutionId) (got : List UInt8) : Sim Poll := do
  match ← readOn id 2 got with
  | (true, got) => pollCopied id got
  | (false, got) => return .waits (.copy id got) [.execution id .stdoutData]

/-- Poll a caller that reads an output to its end. -/
def pollReadAll (id : ExecutionId) (got : List UInt8) : Sim Poll := do
  match ← readOn id 2 got with
  | (true, got) => return .done (.output got)
  | (false, got) => return .waits (.readAll id got) [.execution id .stdoutData]

/-- Poll a caller that reads once from an output. -/
def pollRead (id : ExecutionId) (max : Nat) : Sim Poll := do
  match ← readStdout id max with
  | .bytes bytes => return .done (.bytes bytes)
  | .ended => return .done (.bytes [])
  | .blocked => return .waits (.read id max) [.execution id .stdoutData]

/-- Poll a caller that waits for the end of an execution. -/
def pollCompletion (id : ExecutionId) : Sim Poll := do
  let x := (← get).execution id
  if x.driver.state.isTerminal then return .done (.execution (.ok x.driver.state))
  else return .waits (.completion id) [.execution id .state]

/-- Go on when an execution is connected. -/
def afterOpen (id : ExecutionId) : ExecPurpose → Sim Poll
  | .opening => return .done (.opened (.ok ()))
  | .copying => pollCopy id []
  | .finishing wanted => pollFinish id wanted

/-- Go on when an execution will never be connected. -/
def afterRefusal (id : ExecutionId) (error : ClusterError) : ExecPurpose → Sim Poll
  | .opening => return .done (.opened (.error error))
  | .copying => do
    dropExecution id
    return .done (.refused error)
  | .finishing wanted => do
    dropExecution id
    return .done (if wanted then .execution (.error error) else .nothing)

/-- Poll a caller that waits for the connection of an execution. -/
def pollOpen (id : ExecutionId) (purpose : ExecPurpose) : Sim Poll := do
  let (answer, x) := ((← get).execution id).awaitOpen
  modifyExecution id fun _ => x
  match answer with
  | some (.ok ()) => afterOpen id purpose
  | some (.error error) => afterRefusal id error purpose
  | none => return .waits (.open_ id purpose) [.execution id .state]

end BrowserGrid.Simulation.Sim
