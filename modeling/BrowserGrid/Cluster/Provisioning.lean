import BrowserGrid.Cluster.Client
import BrowserGrid.Provisioner
/-!
# Starting a node for a request

`Provisioner.provision` counts the pods that the hub owns and submits one more if there may be more.
The count and the submission are two calls of the platform, between which others may come.
-/

namespace BrowserGrid

open Cluster Cluster.Program

/-- Start a node for a request, and say whether that succeeded. -/
def Provisioner.provision (p : Provisioner) (client : Client) (defaults : FleetDefaults)
    (slot : Uuid) (sharedFolder : Option SharedFolder) (request : Request) : Program Bool := do
  match ← client.runningContainers.run with
  | .error _ => return false
  | .ok running =>
    if running ≥ p.maxContainers then return false
    else
      client.createContainer slot sharedFolder p.namePrefix p.image
        (p.nodeEnv defaults client.screenVar request.capabilities) p.nodePort

end BrowserGrid
