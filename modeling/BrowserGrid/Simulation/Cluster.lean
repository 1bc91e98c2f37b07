import BrowserGrid.Cluster.Program
import BrowserGrid.Text.Ascii
/-!
# A simulated cluster

`SimCluster` stands in for the platform: it keeps pods and services by name, names the pods that it
is given, hands out ports, and fails when it has been told to.  `SimCluster.answer` is what it says
to a call.
-/

namespace BrowserGrid.Simulation

open Cluster

/-- A platform that keeps its objects in memory. -/
structure SimCluster where
  /-- The pods by the names under which they are kept. -/
  pods : KeyMap Pod := KeyMap.empty
  /-- The services by the names under which they are kept. -/
  services : KeyMap Service := KeyMap.empty
  /-- How many pods have been created. -/
  created : Nat := 0
  /-- The port that is handed out next. -/
  nextPort : Nat := 30000
  /-- Whether services are given ports. -/
  assignsPorts : Bool := true
  /-- The failures that are waiting for calls of each method. -/
  failures : KeyMap (List ClusterError) := KeyMap.empty
  deriving Inhabited

/-- The method of a call. -/
def methodOf : Operation → String
  | .createPod _ => "create_pod"
  | .getPod _ => "get_pod"
  | .deletePod _ => "delete_pod"
  | .listPods _ => "list_pods"
  | .createService _ => "create_service"
  | .deleteService _ => "delete_service"
  | .listServices _ => "list_services"

namespace SimCluster

/-- Whether labels satisfy a selector `key=value`. -/
def selects (selector : String) (labels : KeyMap String) : Bool :=
  match Text.cut? "=" selector with
  | some (key, value) => labels.get? key == some value
  | none => labels.contains selector

/-- Arrange for calls of a method to fail. -/
def fail (c : SimCluster) (method : String) (times : Nat) (error : ClusterError) : SimCluster :=
  { c with
    failures := c.failures.insert method
      ((c.failures.get? method).getD [] ++ List.replicate times error) }

/-- Take the failure that waits for a call of a method. -/
def takeFailure (c : SimCluster) (method : String) : Option ClusterError × SimCluster :=
  match c.failures.get? method with
  | some (error :: rest) => (some error, { c with failures := c.failures.insert method rest })
  | _ => (none, c)

/-- A number with zeros in front of it up to five digits. -/
def fiveDigits (n : Nat) : String :=
  let digits := toString n
  String.ofList (List.replicate (5 - digits.length) '0') ++ digits

/-- Take in a pod: it gets a name and an address. -/
def createPod (c : SimCluster) (pod : Pod) : Pod × SimCluster :=
  let n := c.created + 1
  let name := pod.metadata.generateName.getD "" ++ fiveDigits n
  let pod := { pod with
    metadata := { pod.metadata with name := some name, generateName := none }
    status := some { phase := some "Pending", podIp := some ("10.1.0." ++ toString n) } }
  (pod, { c with created := n, pods := c.pods.insert name pod })

/-- Give ports to the ports of a service. -/
def assignPorts (next : Nat) : List ServicePort → List ServicePort × Nat
  | [] => ([], next)
  | p :: rest =>
    let (rest, last) := assignPorts (next + 1) rest
    ({ p with nodePort := some next } :: rest, last)

/-- Take in a service, unless its name is taken. -/
def createService (c : SimCluster) (service : Service) :
    Except ClusterError Service × SimCluster :=
  let name := service.name?.getD ""
  if c.services.contains name then
    (.error (.commandFailed "create service" ("services \"" ++ name ++ "\" already exists")), c)
  else
    let (service, next) :=
      if c.assignsPorts then
        let (ports, next) := assignPorts c.nextPort service.spec.ports
        ({ service with spec := { service.spec with ports } }, next)
      else (service, c.nextPort)
    (.ok service, { c with nextPort := next, services := c.services.insert name service })

/-- What the platform does when it does not fail. -/
def perform (c : SimCluster) : (op : Operation) → Except ClusterError op.Reply × SimCluster
  | .createPod pod =>
    let (pod, c) := c.createPod pod
    (.ok pod, c)
  | .getPod name => (.ok (c.pods.get? name), c)
  | .deletePod name => (.ok (), { c with pods := c.pods.erase name })
  | .listPods selector =>
    (.ok (c.pods.values.filter fun p => selects selector p.metadata.labels), c)
  | .createService service => c.createService service
  | .deleteService name => (.ok (), { c with services := c.services.erase name })
  | .listServices selector =>
    (.ok (c.services.values.filter fun s => selects selector s.metadata.labels), c)

/-- What the platform says to a call. -/
def answer (c : SimCluster) (op : Operation) : Except ClusterError op.Reply × SimCluster :=
  match c.takeFailure (methodOf op) with
  | (some error, c) => (.error error, c)
  | (none, c) => c.perform op

end SimCluster

end BrowserGrid.Simulation
