import BrowserGrid.Duration
import BrowserGrid.Session
/-!
# Refusals of the registry

`RegistryError` lists why the registry does not do what it is asked for; `RegistryError.message` is
the text that says so.
-/

namespace BrowserGrid

/-- Why the registry refuses. -/
inductive RegistryError where
  /-- Nothing that is registered or could be provisioned ever serves these capabilities. -/
  | noMatchingProxy (capabilities : String)
  /-- The registry is stopped. -/
  | stopped
  /-- The request waited for too long. -/
  | timeout (waited : Duration)
  /-- The request was dropped before it got a slot. -/
  | cancelled
  /-- There is no such session. -/
  | unknownSession (key : SessionKey)
  /-- The proxy is being registered already. -/
  | alreadyRegistering (proxy : String)
  deriving DecidableEq, Inhabited

/-- The text of a refusal. -/
def RegistryError.message : RegistryError → String
  | .noMatchingProxy capabilities =>
    "no registered proxy can serve capabilities " ++ capabilities
  | .stopped => "registry is stopped"
  | .timeout waited => "no slot became available within " ++ waited.text
  | .cancelled => "session request was cancelled"
  | .unknownSession key => "unknown session: " ++ key.text
  | .alreadyRegistering proxy => "proxy " ++ proxy ++ " is already registering"

end BrowserGrid
