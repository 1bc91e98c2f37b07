import BrowserGrid.Cluster.Error
import BrowserGrid.Registry.Error
/-!
# Failures as the clients of the hub see them

Every failure is answered with a status, a code and a text.  `ofRegistry`, `ofCluster` and
`ofContexts` classify the failures of the parts of the hub.
-/

namespace BrowserGrid.Api

/-- The classes of failure. -/
inductive Fault where
  /-- There is no such thing. -/
  | notFound
  /-- The request makes no sense. -/
  | badRequest
  /-- The request contradicts the state of the hub. -/
  | conflict
  /-- Nothing ever serves the request. -/
  | noMatchingProxy
  /-- It took too long. -/
  | timeout
  /-- The hub cannot serve now. -/
  | serviceUnavailable
  /-- The hub failed. -/
  | internal
  deriving DecidableEq, Inhabited

namespace Fault

/-- The status of a class. -/
def status : Fault → Nat
  | notFound => 404
  | badRequest => 400
  | conflict => 409
  | noMatchingProxy => 422
  | timeout => 504
  | serviceUnavailable => 503
  | internal => 500

/-- The code of a class. -/
def code : Fault → String
  | notFound => "NOT_FOUND"
  | badRequest => "BAD_REQUEST"
  | conflict => "CONFLICT"
  | noMatchingProxy => "NO_MATCHING_PROXY"
  | timeout => "TIMEOUT"
  | serviceUnavailable => "SERVICE_UNAVAILABLE"
  | internal => "INTERNAL_ERROR"

/-- What the text of a failure of a class starts with. -/
def title : Fault → String
  | notFound => "Resource not found"
  | badRequest => "Bad request"
  | conflict => "Conflict"
  | noMatchingProxy => "No matching proxy"
  | timeout => "Timed out"
  | serviceUnavailable => "Service unavailable"
  | internal => "Internal server error"

end Fault

/-- A failure. -/
structure Error where
  /-- Its class. -/
  fault : Fault
  /-- What went wrong. -/
  detail : String
  deriving DecidableEq, Inhabited

namespace Error

/-- The text of a failure. -/
def message (e : Error) : String := e.fault.title ++ ": " ++ e.detail

/-- The body that answers a failure. -/
def body (e : Error) : Json := .obj [("error", .str e.message), ("code", .str e.fault.code)]

/-- The class of a refusal of the registry. -/
def registryFault : RegistryError → Fault
  | .noMatchingProxy _ => .noMatchingProxy
  | .timeout _ => .timeout
  | .stopped | .cancelled => .serviceUnavailable
  | .unknownSession _ => .notFound
  | .alreadyRegistering _ => .conflict

/-- A refusal of the registry. -/
def ofRegistry (e : RegistryError) : Error := ⟨registryFault e, e.message⟩

/-- The class of a failure of the cluster. -/
def clusterFault : ClusterError → Fault
  | .podNotFound _ => .notFound
  | .registrationFailed .. => .conflict
  | .invalidInput _ => .badRequest
  | .commandFailed .. => .serviceUnavailable
  | .unreadable _ | .execFailed _ | .io _ => .internal

/-- A failure of the cluster. -/
def ofCluster (e : ClusterError) : Error := ⟨clusterFault e, e.message⟩

/-- Any other failure, with what was being done when it happened, the innermost first. -/
def ofContexts (root : String) (contexts : List String) : Error :=
  ⟨.internal, contexts.foldl (fun text context => context ++ ": " ++ text) root⟩

end Error

end BrowserGrid.Api
