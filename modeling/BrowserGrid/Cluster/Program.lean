import BrowserGrid.Cluster.Error
import BrowserGrid.Cluster.Pod
import BrowserGrid.Cluster.Service
/-!
# Programs that call the cluster

An `Operation` is one call of the platform that runs the pods; its `Reply` is what the platform
gives back when it does not fail.  A `Program` makes calls one after the other, each depending on
the answers to the ones before.  `Program.run` runs a program against any platform that answers calls.
-/

namespace BrowserGrid.Cluster

/-- A call of the platform. -/
inductive Operation where
  /-- Submit a pod. -/
  | createPod (pod : Pod)
  /-- Look up a pod by its name. -/
  | getPod (name : String)
  /-- Delete a pod, if it is there. -/
  | deletePod (name : String)
  /-- List the pods that a selector picks. -/
  | listPods (selector : String)
  /-- Submit a service. -/
  | createService (service : Service)
  /-- Delete a service, if it is there. -/
  | deleteService (name : String)
  /-- List the services that a selector picks. -/
  | listServices (selector : String)
  deriving DecidableEq, Inhabited

/-- What the platform gives back.  It is reducible, so that programs see its values. -/
@[reducible] def Operation.Reply : Operation → Type
  | createPod _ => Pod
  | getPod _ => Option Pod
  | deletePod _ => Unit
  | listPods _ => List Pod
  | createService _ => Service
  | deleteService _ => Unit
  | listServices _ => List Service

/-- A program that calls the platform. -/
inductive Program (α : Type) where
  /-- The program is over. -/
  | done (value : α)
  /-- The program makes a call and goes on with what the platform answers. -/
  | call (op : Operation) (next : Except ClusterError op.Reply → Program α)

namespace Program

variable {α β σ : Type}

/-- One program after the other. -/
def bind (p : Program α) (f : α → Program β) : Program β :=
  match p with
  | done a => f a
  | call op next => call op fun answer => (next answer).bind f

instance : Monad Program where
  pure := done
  bind := bind

/-- One call, and what the platform answers. -/
def attempt (op : Operation) : Program (Except ClusterError op.Reply) := call op done

/-- A program that may fail. -/
abbrev Fallible := ExceptT ClusterError Program

/-- One call; its failure is that of the program. -/
def perform (op : Operation) : Fallible op.Reply := ExceptT.mk (attempt op)

/-- Refuse. -/
def refuse (e : ClusterError) : Fallible α := throw e

/-- Run a program where `answer` makes its calls. -/
def runIn {m : Type → Type} [Monad m]
    (answer : (op : Operation) → m (Except ClusterError op.Reply)) : Program α → m α
  | done a => pure a
  | call op next => do
    let reply ← answer op
    runIn answer (next reply)

/-- Run a program on a platform. -/
def run (answer : σ → (op : Operation) → Except ClusterError op.Reply × σ) :
    Program α → σ → α × σ
  | done a, s => (a, s)
  | call op next, s =>
    let (reply, s) := answer s op
    run answer (next reply) s

end Program

end BrowserGrid.Cluster
