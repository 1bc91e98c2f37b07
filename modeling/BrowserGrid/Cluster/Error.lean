/-!
# Failures of the orchestration platform

`ClusterError` lists what can go wrong between the hub and the platform that runs its pods;
`ClusterError.message` is the text that says so.
-/

namespace BrowserGrid

/-- Why an operation on the cluster failed. -/
inductive ClusterError where
  /-- An orchestration command failed. -/
  | commandFailed (command message : String)
  /-- There is no such pod. -/
  | podNotFound (pod : String)
  /-- A node announced itself, but no pod of this hub has its address. -/
  | registrationFailed (ip message : String)
  /-- The platform's answer does not make sense. -/
  | unreadable (message : String)
  /-- The caller's input is refused. -/
  | invalidInput (message : String)
  /-- A command inside a pod failed. -/
  | execFailed (message : String)
  /-- Input or output failed. -/
  | io (message : String)
  deriving DecidableEq, Inhabited

/-- The text of a failure. -/
def ClusterError.message : ClusterError → String
  | .commandFailed command message => "orchestration " ++ command ++ " failed: " ++ message
  | .podNotFound pod => "pod not found: " ++ pod
  | .registrationFailed ip message =>
    "no pod owned by this hub has IP " ++ ip ++ ": " ++ message
  | .unreadable message => "failed to parse orchestration output: " ++ message
  | .invalidInput message => "invalid input: " ++ message
  | .execFailed message => "exec failed: " ++ message
  | .io message => "io error: " ++ message

end BrowserGrid
