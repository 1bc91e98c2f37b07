import BrowserGrid.Cluster.Client
import BrowserGrid.CommandLine
import BrowserGrid.Logging.Journal
/-!
# Serving

`Serving.run` is the life of a hub that serves: it prepares its cluster, listens until it is told to
stop, and cleans up.  What happens in the cluster is logged (`Serving.announcement`,
`Serving.remark`).
-/

namespace BrowserGrid

open Cluster

/-- What a hub that serves was started with. -/
structure Serving where
  /-- Where log lines go. -/
  journal : Journal
  /-- The settings. -/
  settings : Settings
  /-- How pods and services are marked. -/
  client : Client

namespace Serving

/-- Write a line about the hub. -/
def note (s : Serving) (level : LogLevel) (message : String) : Shell Unit :=
  s.journal.note { level, topic := "gridhub", message }

/-- Write a line about the cluster. -/
def noteCluster (s : Serving) (level : LogLevel) (message : String) : Shell Unit :=
  s.journal.note { level, topic := "gridhub::container", message }

/-! ### The cluster -/

/-- Start a process of the command that reaches the platform. -/
def start (s : Serving) (i : Invocation) : Shell (Except String Completion) := do
  let command := s.settings.container.binary
  s.noteCluster .debug (" ".intercalate (command :: i.arguments))
  Shell.start command i

/-- What is said before a call. -/
def announcement : Operation → Option String
  | .deletePod name => some ("deleting leftover pod " ++ name)
  | .deleteService name => some ("deleting leftover service " ++ name)
  | _ => none

/-- What is said about the folder that is passed through. -/
def folderRemark (s : Serving) (pod : Pod) : Option (LogLevel × String) :=
  (SharedFolder.find? pod s.client.sharedFolderPath).map fun folder =>
    (.info, "passing shared folder " ++ folder.mount.mountPath ++ " (volume " ++
      folder.volume.name ++ ") through to nodes")

/-- What is said about the answer to a call. -/
def remark (s : Serving) : (op : Operation) → Except ClusterError op.Reply →
    Option (LogLevel × String)
  | .getPod _, .error e =>
    some (.warn, "could not inspect hub pod for a shared folder: " ++ e.message)
  | .getPod name, .ok none => some (.debug, "hub is not running in a pod named " ++ name)
  | .getPod _, .ok (some pod) => s.folderRemark pod
  | .listPods _, .error e => some (.warn, "failed to list pods for cleanup: " ++ e.message)
  | .listServices _, .error e =>
    some (.warn, "failed to list services for cleanup: " ++ e.message)
  | .deletePod name, .error e =>
    some (.warn, "failed to delete pod " ++ name ++ ": " ++ e.message)
  | .deleteService name, .error e =>
    some (.warn, "failed to delete service " ++ name ++ ": " ++ e.message)
  | _, _ => none

/-- Make a call, and log it. -/
def call (s : Serving) (op : Operation) : Shell (Except ClusterError op.Reply) := do
  let pods := s.settings.container
  if let some message := announcement op then s.noteCluster .debug message
  let answer ← (Kubectl.within pods.scope pods.context).perform s.start op
  if let some (level, message) := s.remark op answer then s.noteCluster level message
  return answer

/-! ### The life of a hub -/

/-- Prepare the cluster, unless that is to be skipped. -/
def prepare (s : Serving) (cleanup : Bool) : Shell Client.Memory := do
  if cleanup then (s.client.initialise {}).runIn s.call
  else
    s.note .info "skipping startup cleanup of leftover pods"
    return {}

/-- Clean up, if the cluster was prepared. -/
def finish (s : Serving) (memory : Client.Memory) : Shell Unit := do
  if memory.armed then s.noteCluster .info "removing pods and services owned by this hub"
  let _ ← (s.client.exitHook memory).runIn s.call

/-- Serve until told to stop. -/
def run (s : Serving) (options : ServeOptions) : Shell.Fallible Unit := do
  let memory ← s.prepare options.cleanup
  s.note .debug "matcher loop started"
  let host := options.host.getD s.settings.server.host
  let port := options.port.getD s.settings.server.port
  let place := host ++ ":" ++ toString port
  match SocketAddress.parse? place with
  | none => throw ("parsing listen address " ++ place)
  | some address =>
    Shell.orFail ("binding to " ++ address.text) (Shell.listen address)
    s.note .info ("gridhub listening on " ++ address.text)
    Shell.awaitStop
    s.note .info "Shutdown signal received"
    s.note .info "Shutting down registry..."
    s.finish memory

end Serving

end BrowserGrid
