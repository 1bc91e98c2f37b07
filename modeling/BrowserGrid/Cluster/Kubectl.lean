import BrowserGrid.Cluster.Program
import BrowserGrid.Cluster.ResourceName
import BrowserGrid.Json.Parser
import BrowserGrid.Text.Blank
import BrowserGrid.Text.Utf8
/-!
# The platform as a command

The platform is reached through the command `kubectl`.  `Kubectl.invocation` is the process that an
operation starts, or why it starts none, and `Kubectl.interpret` is what the operation makes of how
that process ended; `Kubectl.perform` joins the two for whatever runs processes.  Names are checked
before anything is started.
-/

namespace BrowserGrid

open Cluster

/-- Where the platform is. -/
structure Kubectl where
  /-- The namespace of every call. -/
  scope : String
  /-- The context of the user's configuration, if it is not the current one. -/
  context : Option String := none
  deriving DecidableEq, Inhabited

/-- A process to be started. -/
structure Invocation where
  /-- What it is called in messages. -/
  label : String
  /-- The arguments. -/
  arguments : List String
  /-- What it reads. -/
  input : Option Json := none
  deriving DecidableEq, Inhabited

/-- How a process ended. -/
structure Completion where
  /-- The code with which it exited; nothing if a signal ended it. -/
  code : Option Nat := some 0
  /-- Its output. -/
  stdout : List UInt8 := []
  /-- Its error stream. -/
  stderr : List UInt8 := []
  deriving DecidableEq, Inhabited

/-- The failure of a process. -/
def Invocation.failure (i : Invocation) (message : String) : ClusterError :=
  .commandFailed i.label message

/-- The output of a process that succeeded, else its error stream as a failure. -/
def Invocation.output (i : Invocation) (c : Completion) : Except ClusterError String :=
  if c.code = some 0 then .ok (Utf8.decodeLossy c.stdout)
  else .error (i.failure (Text.trim (Utf8.decodeLossy c.stderr)))

namespace Kubectl

/-- The platform in a namespace; an empty context is none. -/
def within (scope : String) (context : Option String) : Kubectl :=
  { scope, context := context.filter (!·.isEmpty) }

/-- The arguments that every call starts with. -/
def scopeArguments (k : Kubectl) : List String :=
  ["--namespace", k.scope] ++
    match k.context with
    | some context => ["--context", context]
    | none => []

/-- The process of a call. -/
def call (k : Kubectl) (label : String) (arguments : List String) (input : Option Json) :
    Invocation where
  label
  arguments := k.scopeArguments ++ arguments
  input

/-! ### Operations -/

/-- The process that asks for the version. -/
def healthCheck (k : Kubectl) : Invocation :=
  k.call "version" ["version", "--output", "json"] none

/-- The process that submits an object. -/
def create (k : Kubectl) (kind : String) (object : Json) : Invocation :=
  k.call ("create " ++ kind) ["create", "--filename", "-", "--output", "json"] (some object)

/-- The process that deletes an object. -/
def delete (k : Kubectl) (kind name : String) : Except ClusterError Invocation := do
  ResourceName.check name
  return k.call ("delete " ++ kind) ["delete", kind, name, "--ignore-not-found", "--wait=false"]
    none

/-- The process that lists objects. -/
def list (k : Kubectl) (kinds selector : String) : Invocation :=
  let selection := if selector.isEmpty then [] else ["--selector", selector]
  k.call ("get " ++ kinds) (["get", kinds] ++ selection ++ ["--output", "json"]) none

/-- The process that an operation starts. -/
def invocation (k : Kubectl) : Operation → Except ClusterError Invocation
  | .createPod pod => return k.create "pod" pod.toJson
  | .getPod name => do
    ResourceName.check name
    return k.call "get pod" ["get", "pod", name, "--ignore-not-found", "--output", "json"] none
  | .deletePod name => k.delete "pod" name
  | .listPods selector => return k.list "pods" selector
  | .createService service => return k.create "service" service.toJson
  | .deleteService name => k.delete "service" name
  | .listServices selector => return k.list "services" selector

/-- The object that an output describes. -/
def object {α : Type} (read : Json → Option α) (output : String) : Except ClusterError α :=
  match (Json.document? output).bind read with
  | some a => .ok a
  | none => .error (.unreadable "unexpected output")

/-- What an operation makes of an output. -/
def reply : (op : Operation) → String → Except ClusterError op.Reply
  | .createPod _, output => object Pod.ofJson? output
  | .getPod _, output =>
    if Text.isBlankText output then .ok none else (object Pod.ofJson? output).map some
  | .deletePod _, _ => .ok ()
  | .listPods _, output =>
    if Text.isBlankText output then .ok [] else object Pod.listOfJson? output
  | .createService _, output => object Service.ofJson? output
  | .deleteService _, _ => .ok ()
  | .listServices _, output =>
    if Text.isBlankText output then .ok [] else object Service.listOfJson? output

/-- What an operation makes of how its process ended. -/
def interpret (i : Invocation) (op : Operation) (c : Completion) :
    Except ClusterError op.Reply := do
  reply op (← i.output c)

/-- Perform an operation where processes are run by `run`, which may fail to start them. -/
def perform {m : Type → Type} [Monad m] (k : Kubectl)
    (run : Invocation → m (Except String Completion)) (op : Operation) :
    m (Except ClusterError op.Reply) := do
  match k.invocation op with
  | .error e => return .error e
  | .ok i =>
    match ← run i with
    | .error message => return .error (i.failure message)
    | .ok completion => return interpret i op completion

/-! ### Commands inside pods -/

/-- The process that executes a command in a pod. -/
def exec (k : Kubectl) (pod : String) (command : List String) : Except ClusterError Invocation := do
  ResourceName.check pod
  if command.isEmpty then .error (.invalidInput "exec command cannot be empty")
  else return k.call "exec" (["exec", pod, "--"] ++ command) none

end Kubectl

end BrowserGrid
