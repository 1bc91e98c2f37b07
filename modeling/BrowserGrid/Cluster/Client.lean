import BrowserGrid.Cluster.NodePod
import BrowserGrid.Cluster.Program
import BrowserGrid.Endpoint
import BrowserGrid.Proxy.Node
import BrowserGrid.Uuid
/-!
# The life of browser nodes

`Client` says how the pods and services of this hub are marked; its programs submit a node, find the
pod behind a node that announces itself, expose its screen, and delete what the hub owns.

A node is identified by the address of its pod (`registerNode`): the platform makes the pod's name,
so the pod is looked up among those with the owner's label.
-/

namespace BrowserGrid.Cluster

open Program

/-- How the pods and services of this hub are marked and made. -/
structure Client where
  /-- The key of the label on everything that this hub owns. -/
  ownershipLabel : String := "createdBy"
  /-- The value of that label. -/
  ownershipValue : String := "gridhub"
  /-- The value of the `app` label of nodes. -/
  appLabel : String := "gridhub-node"
  /-- The key of the label that tells nodes apart. -/
  slotLabel : String := "gridhub.io/slot"
  /-- The folder of the memory-backed volume. -/
  memoryPath : String := "/dev/shm"
  /-- The folder that is passed through when the hub's own pod has it. -/
  sharedFolderPath : String := "/tmp/mounted"
  /-- The variable that holds the port of a node's screen. -/
  screenVar : String := "NOVNC_PORT"
  /-- The name of the port that exposes the screen. -/
  screenPortName : String := "novnc"
  /-- The name of the hub's own pod. -/
  hubPodName : Option String := none
  /-- The amounts of resources of a node. -/
  resources : ResourceRequirements := {}
  deriving DecidableEq, Inhabited

namespace Client

/-! ### JSON -/

open Json.Record in
/-- Read the JSON form, in which everything may be missing or null. -/
def ofJson? : Json → Option Client :=
  let usual : Client := {}
  read? do
    let text (name standard : String) : Reader String := do
      return (← optional name Json.text?).getD standard
    return {
      ownershipLabel := ← text "ownership_label" usual.ownershipLabel
      ownershipValue := ← text "ownership_value" usual.ownershipValue
      appLabel := ← text "app_label" usual.appLabel
      slotLabel := ← text "slot_label" usual.slotLabel
      memoryPath := ← text "shm_path" usual.memoryPath
      sharedFolderPath := ← text "shared_folder_path" usual.sharedFolderPath
      screenVar := ← text "novnc_env" usual.screenVar
      screenPortName := ← text "novnc_port_name" usual.screenPortName
      hubPodName := ← optional "hub_pod_name" Json.text?
      resources := (← optional "resources" ResourceRequirements.ofJson?).getD {} }

/-- The JSON form. -/
def toJson (c : Client) : Json :=
  .obj [("ownership_label", .str c.ownershipLabel), ("ownership_value", .str c.ownershipValue),
    ("app_label", .str c.appLabel), ("slot_label", .str c.slotLabel),
    ("shm_path", .str c.memoryPath), ("shared_folder_path", .str c.sharedFolderPath),
    ("novnc_env", .str c.screenVar), ("novnc_port_name", .str c.screenPortName),
    ("hub_pod_name", .ofText? c.hubPodName), ("resources", c.resources.toJson)]

/-! ### Labels -/

/-- The selector of everything that this hub owns. -/
def ownerSelector (c : Client) : String := c.ownershipLabel ++ "=" ++ c.ownershipValue

/-- The label on everything that this hub owns. -/
def ownerLabels (c : Client) : KeyMap String :=
  KeyMap.singleton c.ownershipLabel c.ownershipValue

/-! ### Submitting nodes -/

/-- The environment of a node: the port at which it takes commands is added unless it is there. -/
def nodeEnvironment (env : KeyMap String) (nodePort : Option Nat) : KeyMap String :=
  match nodePort with
  | some port => env.insertNew "NODE_PORT" (toString port)
  | none => env

/-- The labels of a node. -/
def nodeLabels (c : Client) (slot : Uuid) : KeyMap String :=
  (c.ownerLabels.insert "app" c.appLabel).insert c.slotLabel slot.text

/-- The pod of a node. -/
def nodePod (c : Client) (slot : Uuid) (sharedFolder : Option SharedFolder)
    (namePrefix image : String) (env : KeyMap String) (nodePort : Option Nat) : NodePod where
  namePrefix
  image
  labels := c.nodeLabels slot
  env := nodeEnvironment env nodePort
  memoryPath := c.memoryPath
  sharedFolder
  resources := c.resources

/-- Submit a node, and say whether that succeeded. -/
def createContainer (c : Client) (slot : Uuid) (sharedFolder : Option SharedFolder)
    (namePrefix image : String) (env : KeyMap String) (nodePort : Option Nat) : Program Bool := do
  match ← attempt (.createPod (c.nodePod slot sharedFolder namePrefix image env nodePort).pod) with
  | .ok _ => return true
  | .error _ => return false

/-- The number of pods that this hub owns. -/
def runningContainers (c : Client) : Fallible Nat := do
  let pods : List Pod ← perform (.listPods c.ownerSelector)
  return pods.length

/-! ### Exposing the screen of a node -/

/-- Whether a service leads where a new one would. -/
def reusable (c : Client) (existing wanted : Service) : Bool :=
  existing.spec.selector = wanted.spec.selector &&
    (existing.nodePort? c.screenPortName).isSome

/-- Create a service, or use the one of that name that is there, unless it leads elsewhere. -/
def ensureService (c : Client) (service : Service) : Fallible Service := do
  let name := service.name?.getD ""
  let services : List Service ← perform (.listServices c.ownerSelector)
  match services.find? (·.name? == some name) with
  | some existing =>
    if c.reusable existing service then return existing
    else
      let _ : Unit ← perform (.deleteService name)
      perform (.createService service)
  | none => perform (.createService service)

/-- The service that exposes the screen of a pod. -/
def screenService (c : Client) (podName slot : String) (port : Nat) : ScreenService where
  name := podName
  labels := c.ownerLabels
  selector := KeyMap.singleton c.slotLabel slot
  portName := c.screenPortName
  port

/-- The port of a pod's screen, if the pod names one. -/
def screenPort? (c : Client) (pod : Pod) (podName : String) : Except ClusterError (Option Nat) :=
  match pod.envVar? c.screenVar with
  | none => .ok none
  | some value =>
    match Text.port? (Text.trim value) with
    | some port => .ok (some port)
    | none =>
      .error (.unreadable (c.screenVar ++ " of pod " ++ podName ++ " is not a port: " ++ value))

/-- The label that tells a pod from the others. -/
def slotLabelOf (c : Client) (pod : Pod) (podName : String) : Except ClusterError String :=
  match pod.metadata.labels.get? c.slotLabel with
  | some slot => .ok slot
  | none => .error (.unreadable ("pod " ++ podName ++ " has no " ++ c.slotLabel ++ " label"))

/-- A result, or the failure of a program. -/
def ofExcept {α : Type} (result : Except ClusterError α) : Fallible α :=
  ExceptT.mk (pure result)

/-- Find the pod behind a node that announces itself, and expose its screen. -/
def registerNode (c : Client) (nodeName remoteHost : String) : Fallible NodeRegistration := do
  match Endpoint.host? remoteHost with
  | none => refuse (.invalidInput ("cannot parse remote host '" ++ remoteHost ++ "'"))
  | some ip =>
    let pods : List Pod ← perform (.listPods c.ownerSelector)
    match pods.find? (·.ip? == some ip) with
    | none =>
      refuse (.registrationFailed ip
        ("node " ++ nodeName ++ " announced from " ++ remoteHost))
    | some pod =>
      match pod.name? with
      | none => refuse (.unreadable "pod without a name")
      | some podName =>
        match ← ofExcept (c.screenPort? pod podName) with
        | none => return ⟨podName, ip, none⟩
        | some port =>
          let slot ← ofExcept (c.slotLabelOf pod podName)
          let exposed : Service ← c.ensureService (c.screenService podName slot port).service
          return ⟨podName, ip, exposed.nodePort? c.screenPortName⟩

/-! ### Deleting -/

/-- Delete a pod and its service, whether or not they are there. -/
def stopContainer (name : String) : Fallible Unit := do
  let _ : Unit ← perform (.deletePod name)
  perform (.deleteService name)

/-- Delete pods one after the other, whatever the platform says. -/
def deletePods : List String → Program Unit
  | [] => .done ()
  | name :: rest => .call (.deletePod name) fun _ => deletePods rest

/-- Delete services one after the other, whatever the platform says. -/
def deleteServices : List String → Program Unit
  | [] => .done ()
  | name :: rest => .call (.deleteService name) fun _ => deleteServices rest

/-- Delete every pod that the hub owns; nothing if the pods cannot be listed. -/
def cleanupPods (c : Client) : Program Unit := do
  match ← attempt (.listPods c.ownerSelector) with
  | .ok (pods : List Pod) => deletePods (pods.filterMap Pod.name?)
  | .error _ => return ()

/-- Delete every service that the hub owns; nothing if the services cannot be listed. -/
def cleanupServices (c : Client) : Program Unit := do
  match ← attempt (.listServices c.ownerSelector) with
  | .ok (services : List Service) => deleteServices (services.filterMap Service.name?)
  | .error _ => return ()

/-- Delete every pod and every service that the hub owns. -/
def cleanup (c : Client) : Program Unit := do
  c.cleanupPods
  c.cleanupServices

/-! ### Start and end of the hub -/

/-- What the hub remembers of its cluster. -/
structure Memory where
  /-- The folder that is passed through to nodes. -/
  sharedFolder : Option SharedFolder := none
  /-- Whether the end of the hub is to clean up. -/
  armed : Bool := false
  deriving DecidableEq, Inhabited

/-- Look for the folder to pass through in the hub's own pod; nothing changes if that pod is unknown
or cannot be looked up. -/
def discover (c : Client) (memory : Memory) : Program Memory := do
  match c.hubPodName with
  | none => return memory
  | some name =>
    match ← attempt (.getPod name) with
    | .ok (some (pod : Pod)) =>
      return { memory with sharedFolder := SharedFolder.find? pod c.sharedFolderPath }
    | .ok none => return memory
    | .error _ => return memory

/-- Prepare the cluster: find the folder to pass through, delete what an earlier run has left, and
arrange for the same at the end. -/
def initialise (c : Client) (memory : Memory) : Program Memory := do
  let memory ← c.discover memory
  c.cleanup
  return { memory with armed := true }

/-- Clean up at the end of the hub, once for every time that the cluster was prepared. -/
def exitHook (c : Client) (memory : Memory) : Program Memory := do
  if memory.armed then
    c.cleanup
  return { memory with armed := false }

end Client

end BrowserGrid.Cluster
