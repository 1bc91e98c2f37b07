import BrowserGrid.Api.Response
import BrowserGrid.Cluster.Provisioning
import BrowserGrid.Proxy.Provider
import BrowserGrid.Registry.Bell
import BrowserGrid.Registry.Call
import BrowserGrid.Registry.Wait
import BrowserGrid.Simulation.Cluster
import BrowserGrid.Simulation.Execution
/-!
# A hub in virtual time

A `World` holds a hub and everything around it: a clock that moves only when every task waits, the
tasks themselves (`Task`, each a `Job` at the point where it waits), a simulated cluster and the
executions on it, and a trace of the calls that reached the hub's surroundings.

A task waits for `Signal`s.  A signal that is raised puts the tasks that wait for it at the end of
the list of ready tasks, in which tasks run in turn; an alarm does the same for its task when its
time has come, alarms of one time in the order in which they were set.  One task, the foreground,
stands apart: it runs when no other task is ready.
-/

namespace BrowserGrid.Simulation

/-! ### Proxies that follow a script -/

/-- The memory that the matchers share: the table of versions, and how often each of those that are
going to break has been asked. -/
structure Memory where
  /-- The table of versions. -/
  versions : Versions := .empty
  /-- The calls of matchers, by the instance of the proxy. -/
  asked : List (Nat × Nat) := []
  deriving Inhabited

namespace Memory

/-- Another table of versions. -/
def withVersions (m : Memory) (versions : Versions) : Memory := { m with versions }

/-- Count a call of a matcher; also how often it has been asked now. -/
def ask (m : Memory) (serial : Nat) : Nat × Memory :=
  let n := ((m.asked.find? (·.1 = serial)).map (·.2)).getD 0 + 1
  (n, { m with asked := (serial, n) :: m.asked.filter (·.1 ≠ serial) })

end Memory

/-- A proxy of the simulated hub. -/
abbrev SimProxy := Proxy Memory

/-- What a proxy does besides running sessions. -/
inductive Conduct where
  /-- It takes its time to prepare itself and to be torn down, and may fail to prepare itself. -/
  | scripted (hookMs : Nat) (hookFails : Bool) (teardownMs : Nat)
  /-- It is a node, whose pod is deleted with it. -/
  | node (pod : String)
  /-- It is a cloud provider, perhaps with a status page. -/
  | provider (statusUrl : Option String)
  deriving DecidableEq, Inhabited

/-- How often the status page of a provider is asked. -/
def statusAttempts : Nat := 3

/-- The milliseconds between two such attempts. -/
def statusBackoff : Nat := 2000

/-- Where the matcher of a scripted proxy comes from. -/
inductive MatcherScript where
  /-- The standard keys. -/
  | plain
  /-- The rules of the fleet. -/
  | fleet
  /-- The rules of cloud slots. -/
  | cloud
  /-- The standard keys, but one call breaks the matcher. -/
  | breaking (call : Nat)
  deriving DecidableEq, Inhabited

/-- What a proxy to be added is. -/
inductive ProxyScript where
  /-- A proxy that follows a script. -/
  | scripted (id : ProxyId) (kind : ProxyKind) (slots : List Capabilities) (singleUse : Bool)
      (backing : Option String) (matcher : MatcherScript) (conduct : Conduct)
  /-- A node at an address. -/
  | node (remote : String) (registration : NodeRegistration) (announced : List Capabilities)
  /-- A cloud provider. -/
  | provider (provider : Provider)
  deriving Inhabited

/-- How nodes are started for requests. -/
inductive ProvisionScript where
  /-- Not at all. -/
  | none
  /-- As the hub does. -/
  | pods (provisioner : Provisioner)
  /-- For some browsers, with a delay, and in vain for the first few times. -/
  | scripted (browsers : List String) (failures delayMs : Nat)
  deriving DecidableEq, Inhabited

/-! ### Tasks -/

/-- The number of a task. -/
abbrev TaskId := Nat

/-- The number of an execution. -/
abbrev ExecutionId := Nat

/-- What can happen at an execution. -/
inductive Port where
  /-- There is something to read from the output, or its end. -/
  | stdoutData
  /-- There is room in the output, or nobody reads it. -/
  | stdoutRoom
  /-- There is something to read from the error stream, or its end. -/
  | stderrData
  /-- There is room in the error stream, or nobody reads it. -/
  | stderrRoom
  /-- The signal that ends the command has been fired or is gone. -/
  | kill
  /-- The end has been asked for. -/
  | close
  /-- The exit has been reported. -/
  | exit
  /-- A state has been published. -/
  | state
  /-- The output has been collected to its end. -/
  | collected
  deriving DecidableEq, Inhabited

/-- What a task can wait for, besides an alarm. -/
inductive Signal where
  /-- The hub's bell, which says that a request may find a slot. -/
  | bell
  /-- The mailbox of a request. -/
  | reply (request : RequestId)
  /-- The end of a task. -/
  | finished (task : TaskId)
  /-- Something at an execution. -/
  | execution (id : ExecutionId) (port : Port)
  deriving DecidableEq, Inhabited

/-- What a task brings about. -/
inductive Outcome where
  /-- Nothing to speak of. -/
  | nothing
  /-- Something is so, or not. -/
  | flag (value : Bool)
  /-- Something is so, or not, or there is nothing of which it could be. -/
  | maybe (value : Option Bool)
  /-- A number. -/
  | count (n : Nat)
  /-- A text. -/
  | text (text : String)
  /-- A session, if there is one. -/
  | session (session : Option Session)
  /-- Sessions. -/
  | sessions (sessions : List Session)
  /-- The status of the registry. -/
  | status (status : Registry.Status)
  /-- The registered proxies: identity, kind, whether for one session, and what they stand for. -/
  | proxies (proxies : List (ProxyId × ProxyKind × Bool × Option String))
  /-- What a call of the cluster without a result returns. -/
  | done (result : Except ClusterError Unit)
  /-- The number of pods. -/
  | running (result : Except ClusterError Nat)
  /-- The pod behind a node. -/
  | registration (result : Except ClusterError NodeRegistration)
  /-- There is no such session. -/
  | noSession
  /-- There is no such request. -/
  | noRequest
  /-- There is no such task. -/
  | noTask
  /-- There is no output to read from. -/
  | noStream
  /-- What a wait returns. -/
  | awaited (result : Except RegistryError Session)
  /-- A response to a client. -/
  | response (response : Api.Response)
  /-- Whether an execution was connected. -/
  | opened (result : Except ClusterError Unit)
  /-- The state of an execution, or why there is none. -/
  | execution (result : Except ClusterError ExecState)
  /-- Bytes from an output. -/
  | bytes (bytes : List UInt8)
  /-- A whole output. -/
  | output (bytes : List UInt8)
  /-- A copied folder: its bytes, how the command ended and what else it said. -/
  | copied (bytes : List UInt8) (state : ExecState) (said : List UInt8)
  /-- The command could not be started. -/
  | refused (error : ClusterError)
  /-- The task broke. -/
  | broken
  /-- The task took too long. -/
  | stillRunning
  deriving Inhabited

/-- What is done with the answer of a call or the result of a wait. -/
inductive Sequel where
  /-- It is the outcome. -/
  | outcome
  /-- A session is remembered under a name. -/
  | remember (name : String)
  /-- A client that registered a node is answered. -/
  | registered (proxy : ProxyId) (registration : NodeRegistration)
  /-- A client that asked for a session is answered; the session is remembered under the name. -/
  | created (name : Option String)
  deriving Inhabited

/-- A thing that takes until some time, for a proxy. -/
structure Chore where
  /-- When it is done. -/
  due : Nat
  /-- The proxy. -/
  proxy : SimProxy

/-- Where the loop stands that sweeps whenever the bell rings. -/
inductive LoopPhase where
  /-- It is about to sweep. -/
  | start
  /-- A task sweeps. -/
  | sweeping (task : TaskId)
  /-- It listens to the bell, until some time. -/
  | parked (until_ : Nat)
  deriving DecidableEq, Inhabited

/-- Where a script stands. -/
inductive ScriptPhase where
  /-- It pauses before its next event. -/
  | pause (until_ : Nat)
  /-- It writes to its output. -/
  | stdout (rest : List UInt8)
  /-- It writes to its error stream. -/
  | stderr (rest : List UInt8)
  /-- It sleeps. -/
  | sleep (until_ : Nat)
  /-- It waits for the signal that ends it. -/
  | kill
  deriving DecidableEq, Inhabited

/-- What follows the connection of an execution. -/
inductive ExecPurpose where
  /-- The outcome says that it is connected. -/
  | opening
  /-- A folder is read from it. -/
  | copying
  /-- Its end is waited for; the flag says whether anybody is interested in the outcome. -/
  | finishing (wanted : Bool)
  deriving DecidableEq, Inhabited

/-- A thing to do with the hub. -/
inductive Action where
  /-- Register a proxy. -/
  | add (proxy : ProxyScript)
  /-- Unregister a proxy. -/
  | remove (id : ProxyId)
  /-- Look whether a proxy is registered. -/
  | contains (id : ProxyId)
  /-- List the proxies. -/
  | proxies
  /-- Ask a proxy whether it could ever serve a request. -/
  | serves (id : ProxyId) (requested : Capabilities)
  /-- Wait for the session of a request, which is remembered under its name. -/
  | wait (name : String) (request : RequestId) (timeout : Duration)
  /-- Withdraw a request. -/
  | withdraw (request : RequestId)
  /-- Count the requests that wait. -/
  | pending
  /-- Make one pass over the queue. -/
  | sweep
  /-- Stop the registry. -/
  | stop
  /-- Look whether the registry is stopped. -/
  | isStopped
  /-- Look at the registry. -/
  | status
  /-- List the sessions. -/
  | active
  /-- Note the key that the client's protocol gave a session. -/
  | activate (key : SessionKey) (externalKey : String)
  /-- Look at a session. -/
  | session (key : SessionKey)
  /-- Look for the session with a key of the client's protocol. -/
  | byExternal (externalKey : String)
  /-- End a session. -/
  | release (key : SessionKey) (reason : Termination)
  /-- End whatever session is on a slot. -/
  | forceRelease (slot : SlotId) (reason : Termination)
  /-- End a session in a task of its own. -/
  | terminate (key : SessionKey) (reason : Termination)
  /-- Submit a node. -/
  | createContainer (namePrefix image : String) (env : KeyMap String) (nodePort : Option Nat)
  /-- Find the pod behind a node. -/
  | registerNode (name remote : String)
  /-- Delete a pod and its service. -/
  | stopContainer (name : String)
  /-- Count the pods of the hub. -/
  | running
  /-- The selector of what the hub owns. -/
  | selector
  /-- Prepare the cluster. -/
  | initialise
  /-- Delete what the hub owns. -/
  | cleanup
  /-- Clean up at the end of the hub. -/
  | exitHook
  /-- Read a folder of a pod. -/
  | copyFiles (pod folder : String)
  /-- Run a command in a pod. -/
  | execute (pod : String) (command : List String) (wait : Bool)
  /-- Send a request to the hub; a session in the answer is remembered under the name. -/
  | request (request : Api.Request) (name : Option String)
  /-- Say at once what is the case. -/
  | say (outcome : Outcome)
  deriving Inhabited

/-- A job at the point where it waits. -/
inductive Job where
  /-- Do something with the hub. -/
  | action (action : Action)
  /-- Sweep whenever the bell rings. -/
  | loop (phase : LoopPhase)
  /-- Start an operation of the registry. -/
  | operation (op : Registry.Operation Memory) (sequel : Sequel)
  /-- Wait with a call of the registry for some chores; how a proxy prepared itself. -/
  | call (call : Registry.Call Memory) (chores : List Chore) (prepared : Bool) (sequel : Sequel)
  /-- Wait for a session. -/
  | wait (request : RequestId) (timeout : Duration) (until_ : Nat) (sequel : Sequel)
  /-- Start a node for a request. -/
  | provision (request : Request)
  /-- Wait for a node of a script. -/
  | provisioning (request : Request) (until_ : Nat)
  /-- Wait for a task and take over its outcome. -/
  | join (task : TaskId)
  /-- Wait for a time. -/
  | sleep (until_ : Nat)
  /-- Drive an execution; the end of the time that it goes on reading. -/
  | drive (id : ExecutionId) (graceUntil : Nat)
  /-- Collect the output of an execution. -/
  | collect (id : ExecutionId)
  /-- Play the script of a remote command. -/
  | play (id : ExecutionId) (events : List ScriptEvent) (phase : ScriptPhase)
  /-- Wait for the connection of an execution. -/
  | open_ (id : ExecutionId) (purpose : ExecPurpose)
  /-- Wait for the end of an execution. -/
  | completion (id : ExecutionId)
  /-- Wait for the end of an execution and let go of it. -/
  | finish (id : ExecutionId) (wanted : Bool)
  /-- Read once from the output of an execution. -/
  | read (id : ExecutionId) (max : Nat)
  /-- Read the output of an execution to its end. -/
  | readAll (id : ExecutionId) (got : List UInt8)
  /-- Read a folder from an execution to its end. -/
  | copy (id : ExecutionId) (got : List UInt8)
  /-- Wait for the end of an execution from which a folder has been read. -/
  | copied (id : ExecutionId) (got : List UInt8)

/-- A task: a job, and what it waits for. -/
structure Task where
  /-- The number. -/
  id : TaskId
  /-- The job. -/
  job : Job
  /-- What it waits for. -/
  signals : List Signal := []

/-- A time at which a task is to run. -/
structure Alarm where
  /-- The time. -/
  due : Nat
  /-- The place in the order in which alarms were set. -/
  serial : Nat
  /-- The task. -/
  task : TaskId
  deriving DecidableEq, Inhabited

/-! ### The world -/

/-- A call that reached the surroundings of the hub. -/
inductive Trace where
  /-- A call of the cluster. -/
  | cluster (op : Cluster.Operation)
  /-- A command was to be started. -/
  | exec (pod : String) (command : List String)
  /-- A remote command was told to end, or will never be. -/
  | killed (fired : Bool)
  /-- A proxy began to prepare itself. -/
  | hook (proxy : ProxyId)
  /-- A proxy was torn down. -/
  | teardown (proxy : ProxyId)
  /-- A node was asked for. -/
  | provision (request : Request)
  deriving Inhabited

/-- What a hub is run with. -/
structure Setup where
  /-- Whether requests state priorities. -/
  byPriority : Bool := false
  /-- The milliseconds for which the loop listens to the bell. -/
  pollMs : Nat := 5000
  /-- The milliseconds that a client waits who does not say how long. -/
  waitMs : Nat := 300000
  /-- The defaults of the fleet. -/
  defaults : FleetDefaults := {}
  /-- How pods and services are marked. -/
  client : Cluster.Client := {}
  /-- How nodes are started. -/
  provisioning : ProvisionScript := .none
  deriving Inhabited

/-- The hub and everything around it. -/
structure World where
  /-- What the hub is run with. -/
  setup : Setup := {}
  /-- The time in milliseconds. -/
  now : Nat := 0
  /-- The tasks that are ready to run. -/
  ready : List TaskId := []
  /-- The alarms, by time and then in the order in which they were set. -/
  alarms : List Alarm := []
  /-- How many alarms have been set. -/
  alarmsSet : Nat := 0
  /-- The tasks. -/
  tasks : List Task := []
  /-- The number of the next task; that of the foreground is zero. -/
  nextTask : TaskId := 1
  /-- What the tasks that have ended have brought about. -/
  outcomes : List (TaskId × Outcome) := []
  /-- The registry. -/
  registry : Registry Memory := {}
  /-- The memory of the matchers. -/
  memory : Memory := {}
  /-- The mailboxes of the requests. -/
  mailboxes : List Registry.Mailbox := []
  /-- The bell. -/
  bell : Registry.Bell := {}
  /-- The task of the loop. -/
  loop : Option TaskId := none
  /-- What the hub remembers of its cluster. -/
  clientMemory : Cluster.Client.Memory := {}
  /-- The cluster. -/
  cluster : SimCluster := {}
  /-- The script of the commands that are started from now on. -/
  script : List ScriptEvent := []
  /-- The executions, in the order in which they were started. -/
  executions : List Execution := []
  /-- What the proxies do, by instance. -/
  conducts : List (Nat × Conduct) := []
  /-- How many instances of proxies there have been. -/
  proxiesMade : Nat := 0
  /-- How many scripted nodes have been delivered or have failed. -/
  nodesTried : Nat := 0
  /-- How many labels have been drawn for pods. -/
  labelsDrawn : Nat := 0
  /-- The calls that have not been looked at, the last one first. -/
  trace : List Trace := []
  /-- The sessions that are remembered by names. -/
  sessions : List (String × SessionKey) := []
  /-- The handles of requests by their names. -/
  handles : List (String × RequestId) := []
  /-- The last request of each name. -/
  requests : List (String × RequestId) := []
  /-- The tasks in the background by their names. -/
  background : List (String × TaskId) := []
  /-- Whether a matcher broke in the foreground, which ends the run. -/
  broken : Bool := false
  deriving Inhabited

/-- Where the labels of pods start in the sequence of identifiers. -/
def labelBase : Nat := Nat.pow 2 40

namespace World

/-- What the registry is run with. -/
def setting (w : World) : Registry.Setting Memory where
  identifiers := Uuid.ofSerial
  priority := fun c => if w.setup.byPriority then c.priority else 0
  canProvision := fun requested memory =>
    match w.setup.provisioning with
    | .none => false
    | .pods p => p.canProvision memory.versions requested
    | .scripted browsers _ _ => requested.browserName?.any browsers.contains

/-- The state of an execution. -/
def execution (w : World) (id : ExecutionId) : Execution := w.executions.getD id default

/-- What a proxy does. -/
def conduct (w : World) (p : SimProxy) : Conduct :=
  ((w.conducts.find? (·.1 = p.serial)).map (·.2)).getD (.scripted 0 false 0)

end World

/-- What a poll of a job comes to. -/
inductive Poll where
  /-- The job is over. -/
  | done (outcome : Outcome)
  /-- The job waits, for an alarm or for signals. -/
  | waits (job : Job) (signals : List Signal)

/-- A change of the world, with a result. -/
abbrev Sim := StateM World

namespace Sim

/-! ### Signals, alarms and tasks -/

/-- Note a call that reached the surroundings. -/
def note (t : Trace) : Sim Unit := modify fun w => { w with trace := t :: w.trace }

/-- Make a task ready. -/
def wake (id : TaskId) : Sim Unit :=
  modify fun w => if w.ready.contains id then w else { w with ready := w.ready ++ [id] }

/-- Raise a signal. -/
def raise (s : Signal) : Sim Unit := do
  for t in (← get).tasks do
    if t.signals.contains s then wake t.id

/-- Set an alarm for a task. -/
def setAlarm (task : TaskId) (due : Nat) : Sim Unit :=
  modify fun w =>
    let alarm : Alarm := ⟨due, w.alarmsSet, task⟩
    let (earlier, later) := w.alarms.span (·.due ≤ due)
    { w with alarms := earlier ++ alarm :: later, alarmsSet := w.alarmsSet + 1 }

/-- Drop the alarms of a task. -/
def clearAlarms (task : TaskId) : Sim Unit :=
  modify fun w => { w with alarms := w.alarms.filter (·.task ≠ task) }

/-- Start a task. -/
def spawn (job : Job) : Sim TaskId := do
  let id := (← get).nextTask
  modify fun w => { w with nextTask := id + 1, tasks := w.tasks ++ [{ id, job }] }
  wake id
  return id

/-- Change an execution. -/
def modifyExecution (id : ExecutionId) (f : Execution → Execution) : Sim Unit :=
  modify fun w => { w with executions := w.executions.modify id f }

/-- Ring the bell of the hub. -/
def ring : Sim Unit := do
  let heard := (← get).bell.watched
  modify fun w => { w with bell := w.bell.ring }
  if heard then raise .bell

/-- Fill the mailbox of a request. -/
def reply (id : RequestId) (r : Registry.Reply) : Sim Unit := do
  modify fun w => { w with mailboxes := Registry.fillMailbox w.mailboxes id r }
  raise (.reply id)

/-- Let go of the handle of a request. -/
def letGo (id : RequestId) : Sim Unit :=
  modify fun w => { w with mailboxes := Registry.releaseMailbox w.mailboxes id }

/-- Pass on the news of a section. -/
def spread (news : List Registry.News) : Sim Unit := do
  for n in news do
    if let .changed := n then ring
    if let some (id, r) := n.reply? then reply id r

/-- Run a program on the cluster. -/
def program (p : Cluster.Program α) : Sim α := do
  let answer (w : World) (op : Cluster.Operation) :
      Except ClusterError op.Reply × World :=
    let (reply, cluster) := w.cluster.answer op
    (reply, { w with cluster, trace := .cluster op :: w.trace })
  modifyGet fun w => p.run answer w

/-- Draw the label of a pod. -/
def drawLabel : Sim Uuid :=
  modifyGet fun w =>
    (Uuid.ofSerial (labelBase + w.labelsDrawn), { w with labelsDrawn := w.labelsDrawn + 1 })

/-- Remember a session under a name. -/
def remember (name : String) (key : SessionKey) : Sim Unit :=
  modify fun w => { w with sessions := (name, key) :: w.sessions.filter (·.1 ≠ name) }

end Sim

end BrowserGrid.Simulation
