import BrowserGrid.Cluster.Metadata
import BrowserGrid.Text.Integer
/-!
# Pods

A `Pod` has those fields of a pod that the hub reads or writes; its JSON form leaves out what has no
value, and reading skips what is unknown.  The source of a volume is kept as it was written.
-/

namespace BrowserGrid

open Json.Record

/-- A variable of a container's environment. -/
structure EnvVar where
  /-- The name. -/
  name : String
  /-- The value, unless it comes from elsewhere. -/
  value : Option String := none
  deriving DecidableEq, Inhabited

/-- Where a container sees a volume. -/
structure VolumeMount where
  /-- The name of the volume. -/
  name : String
  /-- The folder at which it appears. -/
  mountPath : String
  /-- Whether it may not be written. -/
  readOnly : Option Bool := none
  deriving DecidableEq, Inhabited

/-- A volume of a pod. -/
structure Volume where
  /-- The name. -/
  name : String
  /-- What the volume holds, as it was written. -/
  source : KeyMap Json := KeyMap.empty
  /-- The name is not part of the source. -/
  unnamed : source.get? "name" = none := by rfl
  deriving DecidableEq

instance : Inhabited Volume := ⟨{ name := "" }⟩

/-- Amounts of processor time and memory, by resource. -/
structure ResourceSpec where
  /-- The most that a container may use. -/
  limits : KeyMap String := KeyMap.empty
  /-- What is set aside for it. -/
  requests : KeyMap String := KeyMap.empty
  deriving DecidableEq, Inhabited

/-- A container of a pod. -/
structure ContainerSpec where
  /-- The name. -/
  name : String
  /-- The image. -/
  image : String := ""
  /-- When the image is fetched. -/
  imagePullPolicy : Option String := none
  /-- The environment. -/
  env : List EnvVar := []
  /-- The volumes that the container sees. -/
  volumeMounts : List VolumeMount := []
  /-- The amounts of resources. -/
  resources : ResourceSpec := {}
  deriving DecidableEq, Inhabited

/-- What a pod is to be. -/
structure PodSpec where
  /-- The containers. -/
  containers : List ContainerSpec := []
  /-- The volumes. -/
  volumes : List Volume := []
  /-- When a container is started again. -/
  restartPolicy : Option String := none
  deriving DecidableEq, Inhabited

/-- How a pod is. -/
structure PodStatus where
  /-- The phase of its life. -/
  phase : Option String := none
  /-- Its address. -/
  podIp : Option String := none
  deriving DecidableEq, Inhabited

/-- A pod. -/
structure Pod where
  /-- The version of the form. -/
  apiVersion : String
  /-- The kind of object. -/
  kind : String
  /-- Name and labels. -/
  metadata : Metadata := {}
  /-- What the pod is to be. -/
  spec : PodSpec := {}
  /-- How the pod is. -/
  status : Option PodStatus := none
  deriving DecidableEq, Inhabited

/-! ### The parts of a pod as JSON -/

/-- The JSON form. -/
def EnvVar.toJson (e : EnvVar) : Json :=
  write [("name", some (.str e.name)), ("value", text? e.value)]

/-- Read the JSON form. -/
def EnvVar.ofJson? : Json → Option EnvVar :=
  read? do return ⟨← required "name" Json.text?, ← optional "value" Json.text?⟩

/-- The JSON form. -/
def VolumeMount.toJson (m : VolumeMount) : Json :=
  write [("name", some (.str m.name)), ("mountPath", some (.str m.mountPath)),
    ("readOnly", m.readOnly.map .bool)]

/-- Read the JSON form. -/
def VolumeMount.ofJson? : Json → Option VolumeMount :=
  read? do
    return ⟨← required "name" Json.text?, ← required "mountPath" Json.text?,
      ← optional "readOnly" Json.bool?⟩

/-- The JSON form: the name stands among the members of the source. -/
def Volume.toJson (v : Volume) : Json := .obj (("name", .str v.name) :: v.source.entries)

/-- Read the JSON form; as the source is whatever stands beside the name, it must be an object. -/
def Volume.ofJson? : Json → Option Volume
  | .obj members => do
    let (name, _) ← (required "name" Json.text?).run (.named members)
    return { name
             source := (Json.canonicalMembers members).erase "name"
             unnamed := by rw [KeyMap.get?_erase]; rfl }
  | _ => none

/-- Whether no amount is stated. -/
def ResourceSpec.isEmpty (r : ResourceSpec) : Bool := r.limits.isEmpty && r.requests.isEmpty

/-- The JSON form. -/
def ResourceSpec.toJson (r : ResourceSpec) : Json :=
  write [("limits", texts? r.limits), ("requests", texts? r.requests)]

/-- Read the JSON form. -/
def ResourceSpec.ofJson? : Json → Option ResourceSpec :=
  read? do
    return ⟨← defaulted "limits" KeyMap.empty Json.textMap?,
      ← defaulted "requests" KeyMap.empty Json.textMap?⟩

/-- The JSON form. -/
def ContainerSpec.toJson (c : ContainerSpec) : Json :=
  write [("name", some (.str c.name)), ("image", some (.str c.image)),
    ("imagePullPolicy", text? c.imagePullPolicy),
    ("env", unlessEmpty (c.env.map EnvVar.toJson)),
    ("volumeMounts", unlessEmpty (c.volumeMounts.map VolumeMount.toJson)),
    ("resources", if c.resources.isEmpty then none else some c.resources.toJson)]

/-- Read the JSON form. -/
def ContainerSpec.ofJson? : Json → Option ContainerSpec :=
  read? do
    return {
      name := ← required "name" Json.text?
      image := ← defaulted "image" "" Json.text?
      imagePullPolicy := ← optional "imagePullPolicy" Json.text?
      env := ← defaulted "env" [] (Json.list? EnvVar.ofJson?)
      volumeMounts := ← defaulted "volumeMounts" [] (Json.list? VolumeMount.ofJson?)
      resources := ← defaulted "resources" {} ResourceSpec.ofJson? }

/-- The JSON form. -/
def PodSpec.toJson (s : PodSpec) : Json :=
  write [("containers", some (.arr (s.containers.map ContainerSpec.toJson))),
    ("volumes", unlessEmpty (s.volumes.map Volume.toJson)),
    ("restartPolicy", text? s.restartPolicy)]

/-- Read the JSON form. -/
def PodSpec.ofJson? : Json → Option PodSpec :=
  read? do
    return {
      containers := ← defaulted "containers" [] (Json.list? ContainerSpec.ofJson?)
      volumes := ← defaulted "volumes" [] (Json.list? Volume.ofJson?)
      restartPolicy := ← optional "restartPolicy" Json.text? }

/-- The JSON form. -/
def PodStatus.toJson (s : PodStatus) : Json :=
  write [("phase", text? s.phase), ("podIP", text? s.podIp)]

/-- Read the JSON form. -/
def PodStatus.ofJson? : Json → Option PodStatus :=
  read? do return ⟨← optional "phase" Json.text?, ← optional "podIP" Json.text?⟩

namespace Pod

/-- The JSON form. -/
def toJson (p : Pod) : Json :=
  write [("apiVersion", some (.str p.apiVersion)), ("kind", some (.str p.kind)),
    ("metadata", some p.metadata.toJson), ("spec", some p.spec.toJson),
    ("status", p.status.map PodStatus.toJson)]

/-- Read the JSON form. -/
def ofJson? : Json → Option Pod :=
  read? do
    return {
      apiVersion := ← required "apiVersion" Json.text?
      kind := ← required "kind" Json.text?
      metadata := ← defaulted "metadata" {} Metadata.ofJson?
      spec := ← defaulted "spec" {} PodSpec.ofJson?
      status := ← optional "status" PodStatus.ofJson? }

/-- Read a listing of pods. -/
def listOfJson? : Json → Option (List Pod) :=
  read? (defaulted "items" [] (Json.list? Pod.ofJson?))

/-! ### Looking into a pod -/

/-- The name. -/
def name? (p : Pod) : Option String := p.metadata.name

/-- The address. -/
def ip? (p : Pod) : Option String := p.status.bind (·.podIp)

/-- The value of an environment variable: that of the first one with the name in any container. -/
def envVar? (p : Pod) (name : String) : Option String :=
  ((p.spec.containers.flatMap (·.env)).find? (·.name = name)).bind (·.value)

end Pod

end BrowserGrid
