import BrowserGrid.Cluster.Kubectl
/-!
# Processes that are played

A `PlayedReply` is how a stand-in for a command answers a process that is given certain arguments.
The first reply that fits counts, and a process that no reply fits ends at once.
-/

namespace BrowserGrid.Simulation

/-- How a stand-in answers. -/
structure PlayedReply where
  /-- The arguments that a process must have. -/
  words : List String := []
  /-- How the process ends. -/
  completion : Completion := {}
  /-- Whether the process only ends when it is killed, or after a while. -/
  hangs : Bool := false
  deriving DecidableEq, Inhabited

/-- The reply to a process. -/
def playedReplyTo (replies : List PlayedReply) (i : Invocation) : PlayedReply :=
  (replies.find? fun r => r.words.all i.arguments.contains).getD {}

/-- What is said when there is no command of a name. -/
def missingCommand : String := "No such file or directory (os error 2)"

/-- What is said when an argument cannot be passed on. -/
def unpassable : String := "nul byte found in provided data"

/-- Play a process, if it can be started; `missing` tells whether there is no such command. -/
def play (missing : Bool) (replies : List PlayedReply) (i : Invocation) :
    Except String Completion :=
  if missing then .error missingCommand
  else if i.arguments.any fun a => a.toList.contains '\x00' then .error unpassable
  else .ok (playedReplyTo replies i).completion

end BrowserGrid.Simulation
