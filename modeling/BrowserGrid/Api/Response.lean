import BrowserGrid.Api.Request
import BrowserGrid.Capability.Versions
import BrowserGrid.Proxy.Node
import BrowserGrid.Registry.Status
/-!
# Responses of the hub

What the hub answers to each command, given what the registry and the cluster have answered.
-/

namespace BrowserGrid.Api.Response

/-- The version of the hub. -/
def hubVersion : String := "0.1.0"

/-- The hub is up. -/
def health : Response :=
  ⟨200, .json (.obj [("status", .str "ok"), ("version", .str hubVersion)])⟩

/-- How the hub is. -/
def hubStatus (s : Registry.Status) (versions : Versions) : Response :=
  ⟨200, .json (.obj (s.members ++ [("knownBrowsers", .ofTextMap versions.table)]))⟩

/-- A node is registered, or not. -/
def registered (proxy : ProxyId) (registration : NodeRegistration) (live : Bool) : Response :=
  if live then
    ⟨200, .json (.obj [("proxyId", .str proxy), ("registration", registration.toJson)])⟩
  else Error.response ⟨.conflict, "proxy " ++ proxy ++ " was not registered"⟩

/-- A node cannot be identified. -/
def unreachableNode : Response := Error.response ⟨.badRequest, "remoteHost has no host"⟩

/-- A session for a client that asked for one. -/
def created : Except RegistryError Session → Response
  | .ok session => ⟨201, .json session.toJson⟩
  | .error e => (Error.ofRegistry e).response

/-- There is no such session. -/
def noSession (key : SessionKey) : Response :=
  Error.response ⟨.notFound, "session " ++ key.text⟩

/-- A session that a client looks at. -/
def session (key : SessionKey) : Option Session → Response
  | some s => ⟨200, .json s.toJson⟩
  | none => noSession key

/-- A session that has been given the key of the client's protocol. -/
def activated : Except RegistryError Session → Response
  | .ok session => ⟨200, .json session.toJson⟩
  | .error e => (Error.ofRegistry e).response

/-- The end of a session is under way. -/
def accepted : Response := ⟨202, .none⟩

end BrowserGrid.Api.Response
