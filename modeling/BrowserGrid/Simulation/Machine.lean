import BrowserGrid.Shell
import BrowserGrid.Simulation.Files
import BrowserGrid.Simulation.Processes
/-!
# A machine in memory

A `Machine` answers the requests of a program from a `FileTree` and from stand-ins for commands, and
keeps what happened (`Machine.answer`).  It can listen at its own addresses, and is told to stop as
soon as it waits for that.
-/

namespace BrowserGrid.Simulation

/-- What happens on a machine. -/
inductive Happening where
  /-- Something was printed. -/
  | printed (text : String)
  /-- A process was started. -/
  | started (invocation : Invocation)
  /-- The program listens. -/
  | listening (address : SocketAddress)
  /-- The program was told to stop. -/
  | stopped
  deriving DecidableEq, Inhabited

/-- A machine. -/
structure Machine where
  /-- The files. -/
  files : FileTree := {}
  /-- The commands and their stand-ins. -/
  commands : List (String × List PlayedReply) := []
  /-- What happened so far. -/
  happenings : List Happening := []
  deriving DecidableEq, Inhabited

namespace Machine

/-- Whether an address is one of this machine, or stands for all of them. -/
def isLocal : SocketAddress → Bool
  | .v4 pieces _ => pieces = [0, 0] || pieces.head?.any (· / 256 = 127)
  | .v6 pieces _ _ => pieces.take 7 = List.replicate 7 0 && pieces.all (· ≤ 1)

/-- Something happens. -/
def happen (h : Happening) : StateM Machine Unit :=
  modify fun m => { m with happenings := m.happenings ++ [h] }

/-- Change the files, if that is possible. -/
def change (f : FileTree → Option FileTree) : StateM Machine Bool := do
  match f (← get).files with
  | none => return false
  | some files =>
    modify ({ · with files })
    return true

/-- Start a process. -/
def start (command : String) (i : Invocation) : StateM Machine (Except String Completion) := do
  let replies := ((← get).commands.find? (·.1 = command)).map (·.2)
  let result := play replies.isNone (replies.getD []) i
  if result.isOk then happen (.started i)
  return result

/-- Answer a request. -/
def answer : (request : Shell.Request) → StateM Machine request.Answer
  | .isFolder path => return ((← get).files.isFolder path : Bool)
  | .isPresent path => return ((← get).files.isPresent path : Bool)
  | .read path => return ((← get).files.read? path : Option String)
  | .makeFolder path => change (·.makeFolder? path)
  | .write path text => change (·.write? path text)
  | .append path text => change (·.append? path text)
  | .print text => happen (.printed text)
  | .start command i => start command i
  | .listen address =>
    if isLocal address then do
      happen (.listening address)
      return (true : Bool)
    else return (false : Bool)
  | .awaitStop => happen .stopped

/-- Run a program on a machine. -/
def run {α : Type} (p : Shell α) (m : Machine) : α × Machine := (p.run answer).run m

end Machine

end BrowserGrid.Simulation
