import BrowserGrid.Cluster.Pod
import BrowserGrid.Text.Blank
import BrowserGrid.Text.Ascii
/-!
# Pods of browser nodes

`NodePod` says what a pod that runs one browser is made of; `NodePod.pod` is the pod to submit.
`SharedFolder.find?` picks the volume of the hub's own pod that is passed through to the nodes.
-/

namespace BrowserGrid

/-- The name of the memory-backed volume of every node. -/
def memoryVolume : String := "dshm"

/-- The name of the only container of a node. -/
def nodeContainer : String := "browser-node"

/-- Overrides for processor time and memory, each optional. -/
structure ResourceRequirements where
  /-- The processor time set aside. -/
  cpuRequest : Option String := none
  /-- The most processor time. -/
  cpuLimit : Option String := none
  /-- The memory set aside. -/
  memoryRequest : Option String := none
  /-- The most memory. -/
  memoryLimit : Option String := none
  deriving DecidableEq, Inhabited

namespace ResourceRequirements

/-- The amounts that are not blank, trimmed. -/
def amounts (cpu memory : Option String) : KeyMap String :=
  KeyMap.ofList ([("cpu", cpu), ("memory", memory)].filterMap fun (key, amount) =>
    (amount.bind Text.trimmed?).map (key, ·))

/-- The amounts of a container. -/
def spec (r : ResourceRequirements) : ResourceSpec where
  limits := amounts r.cpuLimit r.memoryLimit
  requests := amounts r.cpuRequest r.memoryRequest

open Json.Record in
/-- Read the JSON form. -/
def ofJson? : Json → Option ResourceRequirements :=
  read? do
    return {
      cpuRequest := ← optional "cpu_request" Json.text?
      cpuLimit := ← optional "cpu_limit" Json.text?
      memoryRequest := ← optional "memory_request" Json.text?
      memoryLimit := ← optional "memory_limit" Json.text? }

/-- The JSON form. -/
def toJson (r : ResourceRequirements) : Json :=
  .obj [("cpu_request", .ofText? r.cpuRequest), ("cpu_limit", .ofText? r.cpuLimit),
    ("memory_request", .ofText? r.memoryRequest), ("memory_limit", .ofText? r.memoryLimit)]

end ResourceRequirements

/-- A volume that is passed through to every node, and where it appears. -/
structure SharedFolder where
  /-- The volume. -/
  volume : Volume
  /-- Where it appears. -/
  mount : VolumeMount
  deriving DecidableEq, Inhabited

namespace SharedFolder

/-- A folder without the slashes at its end. -/
def withoutSlashes (path : String) : String :=
  String.ofList ((path.toList.reverse.dropWhile (· = '/')).reverse)

/-- The first volume that a container of the pod sees at a folder. -/
def find? (pod : Pod) (path : String) : Option SharedFolder := do
  let mount ← (pod.spec.containers.flatMap (·.volumeMounts)).find? fun m =>
    withoutSlashes m.mountPath = withoutSlashes path
  let volume ← pod.spec.volumes.find? (·.name = mount.name)
  return ⟨volume, mount⟩

end SharedFolder

/-- What a pod that runs one browser is made of. -/
structure NodePod where
  /-- What its name starts with. -/
  namePrefix : String
  /-- The image. -/
  image : String
  /-- The labels. -/
  labels : KeyMap String
  /-- The environment. -/
  env : KeyMap String
  /-- The folder of the memory-backed volume. -/
  memoryPath : String
  /-- The folder that is passed through. -/
  sharedFolder : Option SharedFolder
  /-- The amounts of resources. -/
  resources : ResourceRequirements
  deriving DecidableEq, Inhabited

namespace NodePod

/-- The volume whose content is kept in memory. -/
def memoryBacked : Volume where
  name := memoryVolume
  source := KeyMap.singleton "emptyDir" (.obj [("medium", .str "Memory")])
  unnamed := by decide

/-- The start of the pod's name, with a hyphen at its end. -/
def generateName (n : NodePod) : String :=
  if (Text.dropSuffix? "-" n.namePrefix).isSome then n.namePrefix else n.namePrefix ++ "-"

/-- The only container. -/
def container (n : NodePod) : ContainerSpec where
  name := nodeContainer
  image := n.image
  imagePullPolicy := some "Always"
  env := n.env.entries.map fun (name, value) => { name, value := some value }
  volumeMounts :=
    { name := memoryVolume, mountPath := n.memoryPath } ::
      n.sharedFolder.toList.map (·.mount)
  resources := n.resources.spec

/-- The pod to submit. -/
def pod (n : NodePod) : Pod where
  apiVersion := "v1"
  kind := "Pod"
  metadata := { generateName := some n.generateName, labels := n.labels }
  spec := {
    containers := [n.container]
    volumes := memoryBacked :: n.sharedFolder.toList.map (·.volume)
    restartPolicy := some "Never" }

end NodePod

end BrowserGrid
