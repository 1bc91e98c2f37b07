import BrowserGrid.Cluster.Metadata
import BrowserGrid.Text.Integer
/-!
# Services

A `Service` makes a port of the pods that its selector picks reachable from outside the cluster.
It has those fields that the hub reads or writes; its JSON form leaves out what has no value.
-/

namespace BrowserGrid

open Json.Record

/-- A port of a service. -/
structure ServicePort where
  /-- The name. -/
  name : Option String := none
  /-- The number. -/
  port : Nat
  /-- The port of the pod. -/
  targetPort : Option Nat := none
  /-- The port on every machine of the cluster. -/
  nodePort : Option Nat := none
  /-- The protocol. -/
  protocol : Option String := none
  deriving DecidableEq, Inhabited

/-- What a service is to be. -/
structure ServiceSpec where
  /-- How the service is exposed. -/
  type : Option String := none
  /-- The labels of the pods behind it. -/
  selector : KeyMap String := KeyMap.empty
  /-- The ports. -/
  ports : List ServicePort := []
  deriving DecidableEq, Inhabited

/-- A service. -/
structure Service where
  /-- The version of the form. -/
  apiVersion : String
  /-- The kind of object. -/
  kind : String
  /-- Name and labels. -/
  metadata : Metadata := {}
  /-- What the service is to be. -/
  spec : ServiceSpec := {}
  deriving DecidableEq, Inhabited

/-- A port number as JSON. -/
def portNumber? : Json → Option Nat := Json.nat? Text.maxPort

/-- The JSON form. -/
def ServicePort.toJson (p : ServicePort) : Json :=
  write [("name", text? p.name), ("port", some (.nat p.port)),
    ("targetPort", p.targetPort.map Json.nat), ("nodePort", p.nodePort.map Json.nat),
    ("protocol", text? p.protocol)]

/-- Read the JSON form. -/
def ServicePort.ofJson? : Json → Option ServicePort :=
  read? do
    return {
      name := ← optional "name" Json.text?
      port := ← required "port" portNumber?
      targetPort := ← optional "targetPort" portNumber?
      nodePort := ← optional "nodePort" portNumber?
      protocol := ← optional "protocol" Json.text? }

/-- The JSON form. -/
def ServiceSpec.toJson (s : ServiceSpec) : Json :=
  write [("type", text? s.type), ("selector", texts? s.selector),
    ("ports", some (.arr (s.ports.map ServicePort.toJson)))]

/-- Read the JSON form. -/
def ServiceSpec.ofJson? : Json → Option ServiceSpec :=
  read? do
    return {
      type := ← optional "type" Json.text?
      selector := ← defaulted "selector" KeyMap.empty Json.textMap?
      ports := ← defaulted "ports" [] (Json.list? ServicePort.ofJson?) }

namespace Service

/-- The JSON form. -/
def toJson (s : Service) : Json :=
  write [("apiVersion", some (.str s.apiVersion)), ("kind", some (.str s.kind)),
    ("metadata", some s.metadata.toJson), ("spec", some s.spec.toJson)]

/-- Read the JSON form. -/
def ofJson? : Json → Option Service :=
  read? do
    return {
      apiVersion := ← required "apiVersion" Json.text?
      kind := ← required "kind" Json.text?
      metadata := ← defaulted "metadata" {} Metadata.ofJson?
      spec := ← defaulted "spec" {} ServiceSpec.ofJson? }

/-- Read a listing of services. -/
def listOfJson? : Json → Option (List Service) :=
  read? (defaulted "items" [] (Json.list? Service.ofJson?))

/-- The name. -/
def name? (s : Service) : Option String := s.metadata.name

/-- The outside port of the first service port with a name. -/
def nodePort? (s : Service) (portName : String) : Option Nat :=
  (s.spec.ports.find? (·.name == some portName)).bind (·.nodePort)

end Service

/-- What describes the service that exposes the screen of a node. -/
structure ScreenService where
  /-- The name of the service. -/
  name : String
  /-- Its labels. -/
  labels : KeyMap String
  /-- The labels of the pod behind it. -/
  selector : KeyMap String
  /-- The name of its port. -/
  portName : String
  /-- The port. -/
  port : Nat
  deriving DecidableEq, Inhabited

/-- The service of a description: one port, the same inside and outside the pod. -/
def ScreenService.service (s : ScreenService) : Service where
  apiVersion := "v1"
  kind := "Service"
  metadata := { name := some s.name, labels := s.labels }
  spec := {
    type := some "NodePort"
    selector := s.selector
    ports := [{ name := some s.portName, port := s.port, targetPort := some s.port,
                protocol := some "TCP" }] }

end BrowserGrid
