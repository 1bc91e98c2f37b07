/-!
# File paths

A path is a text with slashes between its parts.  Empty parts and parts of a single point say
nothing, unless the path starts with them.
-/

namespace BrowserGrid.Path

/-- Drop what says nothing at the end of a reversed path, but not the slash of the root. -/
def trimReversed : List Char → List Char
  | ['/'] => ['/']
  | '/' :: rest => trimReversed rest
  | ['.', '/'] => ['/']
  | '.' :: '/' :: rest => trimReversed rest
  | cs => cs

/-- The path that a reversed text writes, and whether it is empty or the root. -/
def isEnd (reversed : List Char) : Bool := reversed.isEmpty || reversed = ['/']

/-- The path without its last part; the empty path and the root have none. -/
def parent? (path : String) : Option String :=
  let reversed := trimReversed path.toList.reverse
  if isEnd reversed then none
  else
    some (String.ofList (trimReversed (reversed.dropWhile (· ≠ '/'))).reverse)

/-- The last part, unless it only points at another place. -/
def fileName? (path : String) : Option String :=
  let reversed := trimReversed path.toList.reverse
  let name := String.ofList (reversed.takeWhile (· ≠ '/')).reverse
  if isEnd reversed ∨ name = "." ∨ name = ".." then none else some name

/-- A path inside another. -/
def join (path name : String) : String :=
  if path.isEmpty ∨ path.endsWith "/" then path ++ name else path ++ "/" ++ name

end BrowserGrid.Path
