import BrowserGrid.Simulation.Actions
/-!
# Running the world

`runJob` runs a job in the foreground to its end, together with everything else, and leaves every
task waiting.  Time passes only when no task is ready, and then straight to the next alarm; a
foreground whose own time has come runs before the tasks in the background.  A foreground that takes
longer than `patience` is abandoned, but one that ends at that very moment counts.  A matcher that
breaks ends its task, and in the foreground the whole run (`World.broken`).
-/

namespace BrowserGrid.Simulation.Sim

/-! ### One task -/

/-- Poll the job of a task: let it do what it can do now. -/
def poll (self : TaskId) : Job → Sim Poll
  | .action action => startAction self action
  | .loop phase => pollLoop self phase
  | .operation op sequel => operate self op sequel
  | .call call chores prepared sequel => pollCall self call chores prepared sequel
  | .wait request timeout until_ sequel => pollWait request timeout until_ sequel
  | .provision request => provision self request
  | .provisioning request until_ => pollProvisioning request until_
  | .join task => do
    match ← takeOutcome task with
    | some outcome => return .done outcome
    | none => return .waits (.join task) [.finished task]
  | .sleep until_ => do
    if (← get).now < until_ then return .waits (.sleep until_) []
    else return .done .nothing
  | .drive id graceUntil => pollDrive self id graceUntil
  | .collect id => pollCollect id
  | .play id events phase => pollPlay self id events phase
  | .open_ id purpose => pollOpen id purpose
  | .completion id => pollCompletion id
  | .finish id wanted => pollFinish id wanted
  | .read id max => pollRead id max
  | .readAll id got => pollReadAll id got
  | .copy id got => pollCopy id got
  | .copied id got => pollCopied id got

/-- A task is gone. -/
def removeTask (id : TaskId) : Sim Unit := do
  clearAlarms id
  modify fun w => { w with
    tasks := w.tasks.filter (·.id ≠ id), ready := w.ready.filter (· ≠ id) }

/-- A task has ended. -/
def endTask (id : TaskId) (outcome : Outcome) : Sim Unit := do
  removeTask id
  modify fun w => { w with outcomes := (id, outcome) :: w.outcomes }
  raise (.finished id)

/-- Put a task at another point. -/
def putTask (task : Task) : Sim Unit :=
  modify fun w => { w with tasks := w.tasks.map fun t => if t.id = task.id then task else t }

/-- Let a task run. -/
def runTask (id : TaskId) : Sim Unit := do
  modify fun w => { w with ready := w.ready.filter (· ≠ id) }
  match (← get).tasks.find? (·.id = id) with
  | none => return ()
  | some task =>
    putTask { task with signals := [] }
    match ← poll id task.job with
    | .done outcome => endTask id outcome
    | .waits job signals => putTask { id, job, signals }

/-! ### All tasks -/

/-- The task of the foreground. -/
def foreground : TaskId := 0

/-- A number of polls that no run reaches. -/
def enough : Nat := 100000000

/-- Run the tasks in the background until each of them waits. -/
def settle : (fuel : Nat) → Sim Unit
  | 0 => return ()
  | fuel + 1 => do
    match (← get).ready.find? (· ≠ foreground) with
    | none => return ()
    | some id => runTask id; settle fuel

/-- Let the time pass to the next alarm; false if there is none. -/
def passTime : Sim Bool := do
  let w ← get
  match w.alarms with
  | [] => return false
  | next :: _ =>
    let now := max w.now next.due
    let (due, alarms) := w.alarms.span (·.due ≤ now)
    set { w with now, alarms }
    for alarm in due do
      wake alarm.task
    return true

/-- How long the foreground may take. -/
def patience : Nat := 600000

/-- Let go of what a job holds. -/
def letGoOf : Job → Sim Unit
  | .wait request .. => letGo request
  | .open_ id .opening => modifyExecution id (·.abandonOpen)
  | .open_ id _ | .finish id _ | .copy id _ | .copied id _ => dropExecution id
  | _ => return ()

/-- Abandon the foreground, and with it what it holds. -/
def abandon : Sim Unit := do
  match (← get).tasks.find? (·.id = foreground) with
  | some task => letGoOf task.job
  | none => pure ()
  removeTask foreground

/-- Let the foreground run if it is ready; its outcome if it ends, or if its time is over. -/
def runForeground (deadline : Nat) : Sim (Option Outcome) := do
  if (← get).ready.contains foreground then
    runTask foreground
    match ← takeOutcome foreground with
    | some outcome => return some outcome
    | none =>
      if deadline ≤ (← get).now then
        abandon
        return some .stillRunning
      else return none
  else return none

/-- Run everything until the foreground ends. -/
def runUntil (deadline : Nat) : (fuel : Nat) → Sim Outcome
  | 0 => return .stillRunning
  | fuel + 1 => do
    match ← runForeground deadline with
    | some outcome => return outcome
    | none =>
      settle enough
      if !(← get).ready.contains foreground then
        let _ ← passTime
      runUntil deadline fuel

/-- Run a job in the foreground, and then everything else until it waits. -/
def runJob (job : Job) : Sim Outcome := do
  let deadline := (← get).now + patience
  modify fun w => { w with tasks := w.tasks ++ [{ id := foreground, job }] }
  wake foreground
  setAlarm foreground deadline
  let outcome ← runUntil deadline enough
  settle enough
  return outcome

/-! ### Steps -/

/-- Do something in the foreground. -/
def act (action : Action) : Sim Outcome := do
  let outcome ← runJob (.action action)
  if let .broken := outcome then modify ({ · with broken := true })
  return outcome

/-- Do something in the background, under a name. -/
def actAside (name : String) (action : Action) : Sim Unit := do
  let task ← spawn (.action action)
  modify fun w => { w with
    background := (name, task) :: w.background.filter (·.1 ≠ name) }
  settle enough

/-- The task in the background of a name. -/
def aside? (name : String) : Sim (Option TaskId) :=
  return ((← get).background.find? (·.1 = name)).map (·.2)

/-- Wait for a task in the background, and forget its name. -/
def join (name : String) : Sim Outcome := do
  match ← aside? name with
  | none => return .noTask
  | some task =>
    modify fun w => { w with background := w.background.filter (·.1 ≠ name) }
    runJob (.join task)

/-- Whether a task in the background has ended. -/
def finished (name : String) : Sim Outcome := do
  match ← aside? name with
  | none => return .maybe none
  | some task => return .maybe (some (← isOver task))

/-- Let some time pass. -/
def advance (ms : Nat) : Sim Outcome := do
  let until_ := (← get).now + ms
  setAlarm foreground until_
  runJob (.sleep until_)

/-- Start the loop that sweeps whenever the bell rings. -/
def start : Sim Unit := do
  startLoop
  settle enough

/-- The handle of a name. -/
def handle? (name : String) : Sim (Option RequestId) :=
  return ((← get).handles.find? (·.1 = name)).map (·.2)

/-- Let go of the handle of a name, if there is one. -/
def dropHandle (name : String) : Sim Bool := do
  match ← handle? name with
  | none => return false
  | some id =>
    modify fun w => { w with handles := w.handles.filter (·.1 ≠ name) }
    letGo id
    return true

/-- Request a session, and keep the handle under a name. -/
def submit (name : String) (requested : Capabilities) : Sim (Except RegistryError Unit) := do
  if ← breaksAdmission requested then modify ({ · with broken := true })
  let result ← takeIn requested
  match result with
  | .error e => return .error e
  | .ok id =>
    let _ ← dropHandle name
    modify fun w => { w with
      handles := (name, id) :: w.handles
      requests := (name, id) :: w.requests.filter (·.1 ≠ name) }
    settle enough
    return .ok ()

/-- The action that uses up the handle of a name to wait for its session. -/
def waitFor (name : String) (timeout : Duration) : Sim Action := do
  match ← handle? name with
  | none => return .say .noRequest
  | some id =>
    modify fun w => { w with handles := w.handles.filter (·.1 ≠ name) }
    return .wait name id timeout

/-- The action that withdraws the last request of a name. -/
def withdrawal (name : String) : Sim Action :=
  return match (← get).requests.find? (·.1 = name) with
    | none => .say .noRequest
    | some (_, id) => .withdraw id

/-- The session of a name. -/
def sessionOf? (name : String) : Sim (Option SessionKey) :=
  return ((← get).sessions.find? (·.1 = name)).map (·.2)

/-- Take the calls that have not been looked at. -/
def takeTrace : Sim (List Trace) :=
  modifyGet fun w => (w.trace.reverse, { w with trace := [] })

/-! ### One execution by itself -/

/-- The caller takes the output of an execution; false if there is none to be taken. -/
def takeStdout (id : ExecutionId) : Sim Bool := do
  let holds := ((← get).execution id).holdsOutput
  modifyExecution id ({ · with holdsOutput := false })
  return holds

/-- Let go of an execution for good, and wait until its driver has noticed. -/
def release (id : ExecutionId) : Sim Unit := do
  dropExecution id
  let _ ← advance 5

end BrowserGrid.Simulation.Sim
