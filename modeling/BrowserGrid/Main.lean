import BrowserGrid.CommandLine.Run
import BrowserGrid.Text.Utf8
/-!
# The program on this machine

`main` runs the program on the files and the output of this machine.  It has neither processes nor a
network: a process cannot be started, and no address can be listened at.
-/

namespace BrowserGrid.OnThisMachine

/-- Where the system shows the environment of the program. -/
def environmentFile : String := "/proc/self/environ"

/-- The pieces of a list of bytes between zeros. -/
def betweenZeros (bytes : List UInt8) : List (List UInt8) :=
  bytes.foldr (fun b pieces =>
    match pieces with
    | piece :: rest => if b = 0 then [] :: piece :: rest else (b :: piece) :: rest
    | [] => [[b]]) [[]]

/-- The environment that bytes describe. -/
def environmentOf (bytes : List UInt8) : Environment where
  entries := (betweenZeros bytes).filterMap fun piece => Text.cut? "=" (Utf8.decodeLossy piece)

/-- Whether an action succeeds. -/
def succeeds (action : IO Unit) : IO Bool := do
  try
    action
    return true
  catch _ => return false

/-- The text of a file. -/
def read? (path : String) : IO (Option String) := do
  try return some (← IO.FS.readFile path)
  catch _ => return none

/-- Write at the end of a file. -/
def append (path text : String) : IO Unit := do
  let file ← IO.FS.Handle.mk path .append
  file.putStr text

/-- Answer a request. -/
def answer : (request : Shell.Request) → IO request.Answer
  | .isFolder path => do
    if path.isEmpty then return (false : Bool) else ((← IO.currentDir) / path).isDir
  | .isPresent path => do
    if path.isEmpty then return (false : Bool) else ((← IO.currentDir) / path).pathExists
  | .read path => read? path
  | .makeFolder path => do
    if path.isEmpty then return (true : Bool) else succeeds (IO.FS.createDirAll path)
  | .write path text => succeeds (IO.FS.writeFile path text)
  | .append path text => succeeds (append path text)
  | .print text => IO.println text
  | .start _ _ => return (.error "processes cannot be started" : Except String Completion)
  | .listen _ => return (false : Bool)
  | .awaitStop => return (() : Unit)

end BrowserGrid.OnThisMachine

open BrowserGrid in
/-- Run the program. -/
def main (arguments : List String) : IO UInt32 := do
  let bytes ← IO.FS.readBinFile OnThisMachine.environmentFile
  let env := OnThisMachine.environmentOf bytes.toList
  let ending ← (CommandLine.run env arguments).run OnThisMachine.answer
  if let some complaint := ending.complaint then IO.eprintln complaint
  return ending.code.toUInt32
