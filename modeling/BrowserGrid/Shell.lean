import BrowserGrid.Cluster.Kubectl
import BrowserGrid.Endpoint.Socket
/-!
# Programs that use the machine they run on

A `Shell.Request` is one thing that a program asks of its machine, about files, processes, output
and the network; its `Answer` is what the machine gives back.  A `Shell` program asks one thing
after the other, each depending on the answers to the ones before, and `Shell.run` runs it on any
machine that answers requests.
-/

namespace BrowserGrid

/-- What a program asks of its machine. -/
inductive Shell.Request where
  /-- Whether there is a folder at a path. -/
  | isFolder (path : String)
  /-- Whether there is anything at a path. -/
  | isPresent (path : String)
  /-- The text of a file; nothing if there is none. -/
  | read (path : String)
  /-- Make a folder and those above it; the answer is whether it is there now. -/
  | makeFolder (path : String)
  /-- Write a file; the answer is whether it could be written. -/
  | write (path text : String)
  /-- Write at the end of a file, which need not exist; the answer is whether that worked. -/
  | append (path text : String)
  /-- Print a text and end the line. -/
  | print (text : String)
  /-- Run a process of a command to its end; it may be impossible to start. -/
  | start (command : String) (invocation : Invocation)
  /-- Serve the hub at an address; the answer is whether it could listen there. -/
  | listen (address : SocketAddress)
  /-- Wait until the program is told to stop, and close what it serves. -/
  | awaitStop
  deriving DecidableEq, Inhabited

/-- What the machine gives back. -/
def Shell.Request.Answer : Shell.Request → Type
  | isFolder _ => Bool
  | isPresent _ => Bool
  | read _ => Option String
  | makeFolder _ => Bool
  | write _ _ => Bool
  | append _ _ => Bool
  | print _ => Unit
  | start _ _ => Except String Completion
  | listen _ => Bool
  | awaitStop => Unit

/-- A program that uses its machine. -/
inductive Shell (α : Type) where
  /-- The program is over. -/
  | done (value : α)
  /-- The program asks for something and goes on with the answer. -/
  | ask (request : Shell.Request) (next : request.Answer → Shell α)

namespace Shell

variable {α β : Type}

/-- One program after the other. -/
def bind (p : Shell α) (f : α → Shell β) : Shell β :=
  match p with
  | done a => f a
  | ask request next => ask request fun answer => (next answer).bind f

instance : Monad Shell where
  pure := done
  bind := bind

/-- One request. -/
def perform (request : Request) : Shell request.Answer := ask request done

/-- Run a program on a machine. -/
def run {m : Type → Type} [Monad m] (answer : (request : Request) → m request.Answer) :
    Shell α → m α
  | done a => pure a
  | ask request next => do
    let reply ← answer request
    run answer (next reply)

/-! ### Requests -/

/-- Whether there is a folder at a path. -/
def isFolder (path : String) : Shell Bool := perform (.isFolder path)

/-- Whether there is anything at a path. -/
def isPresent (path : String) : Shell Bool := perform (.isPresent path)

/-- The text of a file. -/
def read? (path : String) : Shell (Option String) := perform (.read path)

/-- Make a folder and those above it. -/
def makeFolder (path : String) : Shell Bool := perform (.makeFolder path)

/-- Write a file. -/
def write (path text : String) : Shell Bool := perform (.write path text)

/-- Write at the end of a file. -/
def append (path text : String) : Shell Bool := perform (.append path text)

/-- Print a line. -/
def print (text : String) : Shell Unit := perform (.print text)

/-- Run a process of a command. -/
def start (command : String) (i : Invocation) : Shell (Except String Completion) :=
  perform (.start command i)

/-- Serve the hub at an address. -/
def listen (address : SocketAddress) : Shell Bool := perform (.listen address)

/-- Wait until the program is told to stop. -/
def awaitStop : Shell Unit := perform .awaitStop

/-! ### Failing programs -/

/-- A program that may fail with a message. -/
abbrev Fallible := ExceptT String Shell

/-- Fail unless something could be done. -/
def orFail (message : String) (p : Shell Bool) : Fallible Unit := do
  if ← p then return () else throw message

end Shell

end BrowserGrid
