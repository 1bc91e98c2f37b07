/-!
# Pipes

A `Pipe` carries bytes from a writer to a reader and holds at most `capacity` of them.  A read ends
the stream only when the writer is gone and nothing is left.
-/

namespace BrowserGrid.Exec

/-- A pipe. -/
structure Pipe where
  /-- The bytes that were written and not read. -/
  buffer : List UInt8 := []
  /-- The writer will write no more. -/
  writerGone : Bool := false
  /-- Nobody will read any more. -/
  readerGone : Bool := false
  deriving DecidableEq, Inhabited

namespace Pipe

/-- The bytes that a pipe holds at most. -/
def capacity : Nat := 65536

/-- What a read finds. -/
inductive Read where
  /-- Bytes, at least one. -/
  | bytes (bytes : List UInt8)
  /-- The end. -/
  | ended
  /-- Nothing yet. -/
  | blocked
  deriving DecidableEq, Inhabited

/-- Read at most `max` bytes. -/
def read (p : Pipe) (max : Nat) : Read × Pipe :=
  match p.buffer with
  | [] => (if p.writerGone then .ended else .blocked, p)
  | buffer => (.bytes (buffer.take max), { p with buffer := buffer.drop max })

/-- What a write does. -/
inductive Write where
  /-- The pipe is closed at one of its ends: what is written is lost. -/
  | refused
  /-- Everything was written. -/
  | written
  /-- The pipe is full, and this is still to be written. -/
  | blocked (rest : List UInt8)
  deriving DecidableEq, Inhabited

/-- Write as much as the pipe takes. -/
def write (p : Pipe) (bytes : List UInt8) : Write × Pipe :=
  if p.writerGone || p.readerGone then (.refused, p)
  else
    let room := capacity - p.buffer.length
    let p := { p with buffer := p.buffer ++ bytes.take room }
    match bytes.drop room with
    | [] => (.written, p)
    | rest => (.blocked rest, p)

/-- The writer goes. -/
def closeWriter (p : Pipe) : Pipe := { p with writerGone := true }

/-- The reader goes. -/
def closeReader (p : Pipe) : Pipe := { p with readerGone := true }

end Pipe

end BrowserGrid.Exec
