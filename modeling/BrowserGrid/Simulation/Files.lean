import BrowserGrid.Text.Ascii
/-!
# Files in memory

A `FileTree` holds folders and files by their places, and a place is the list of the names from the
root on.  `FileTree.place?` finds the place of a path: every name but the last must be that of a
folder, and a path that ends in a slash is one of a folder.
-/

namespace BrowserGrid.Simulation

/-- The names on the way from the root. -/
abbrev Place := List String

/-- Folders and files. -/
structure FileTree where
  /-- Where relative paths start. -/
  current : Place := []
  /-- The folders apart from the root. -/
  folders : List Place := []
  /-- The files and their texts. -/
  files : List (Place × String) := []
  deriving DecidableEq, Inhabited

namespace FileTree

/-- The files of a machine with nothing but the usual folders, an empty file `/dev/null` and a
working folder. -/
def machine (current : Place) : FileTree where
  current
  folders :=
    ["bin", "boot", "dev", "etc", "home", "lib", "media", "mnt", "opt", "proc", "root", "run",
      "sbin", "srv", "sys", "tmp", "usr", "var"].map ([·]) ++
    [["usr", "bin"], ["usr", "lib"], ["usr", "local"], ["usr", "local", "bin"], ["usr", "share"],
      ["var", "lib"], ["var", "log"], ["var", "tmp"], ["dev", "shm"], current]
  files := [(["dev", "null"], "")]

/-! ### Places -/

/-- Whether there is a folder at a place. -/
def hasFolder (t : FileTree) (p : Place) : Bool := p.isEmpty || t.folders.contains p

/-- The text of the file at a place. -/
def fileAt? (t : FileTree) (p : Place) : Option String := (t.files.find? (·.1 = p)).map (·.2)

/-- Go on from a place by the parts of a path. -/
def walk (t : FileTree) (here : Place) : List String → Option Place
  | [] => some here
  | part :: rest =>
    if !t.hasFolder here then none
    else if part = "" ∨ part = "." then t.walk here rest
    else if part = ".." then t.walk here.dropLast rest
    else t.walk (here ++ [part]) rest

/-- The parts of a path. -/
def partsOf (path : String) : List String := Text.pieces (· = '/') path

/-- Where a path starts. -/
def start (t : FileTree) (path : String) : Place := if path.startsWith "/" then [] else t.current

/-- The place of a path; the empty path has none. -/
def place? (t : FileTree) (path : String) : Option Place :=
  if path.isEmpty then none else t.walk (t.start path) (partsOf path)

/-! ### Looking -/

/-- Whether a path is that of a folder. -/
def isFolder (t : FileTree) (path : String) : Bool :=
  match t.place? path with
  | some p => t.hasFolder p
  | none => false

/-- The text of the file at a path. -/
def read? (t : FileTree) (path : String) : Option String := (t.place? path).bind t.fileAt?

/-- Whether there is anything at a path. -/
def isPresent (t : FileTree) (path : String) : Bool := t.isFolder path || (t.read? path).isSome

/-! ### Changing -/

/-- Put a text at a place. -/
def store (t : FileTree) (p : Place) (text : String) : FileTree :=
  { t with files := (p, text) :: t.files.filter (·.1 ≠ p) }

/-- Write a file; nothing if its folder is missing or a folder is in its place. -/
def write? (t : FileTree) (path text : String) : Option FileTree := do
  let p ← t.place? path
  if t.hasFolder p ∨ !t.hasFolder p.dropLast then none else return t.store p text

/-- Write at the end of a file, which need not exist. -/
def append? (t : FileTree) (path text : String) : Option FileTree :=
  t.write? path ((t.read? path).getD "" ++ text)

/-- Make the folders on a way that are missing; nothing if a file is in the way. -/
def makeFolders (t : FileTree) (here : Place) : List String → Option FileTree
  | [] => some t
  | part :: rest =>
    if part = "" ∨ part = "." then t.makeFolders here rest
    else if part = ".." then t.makeFolders here.dropLast rest
    else
      let next := here ++ [part]
      if t.hasFolder next then t.makeFolders next rest
      else if (t.fileAt? next).isSome then none
      else makeFolders { t with folders := next :: t.folders } next rest

/-- Make a folder and those above it. -/
def makeFolder? (t : FileTree) (path : String) : Option FileTree :=
  t.makeFolders (t.start path) (partsOf path)

end FileTree

end BrowserGrid.Simulation
