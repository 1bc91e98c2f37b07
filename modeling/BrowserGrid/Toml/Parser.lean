import BrowserGrid.Toml.Scalar
import BrowserGrid.Toml.Table
/-!
# Reading TOML

`Toml.document?` reads a configuration document and gives it as an object.  A document is a list of
statements, one a line: a header in brackets, after which keys belong to that table, or a key with
its value.  Lists and tables written as values nest at most `maxDepth` deep.
-/

namespace BrowserGrid.Toml

/-- How deep values may nest. -/
def maxDepth : Nat := 80

/-! ### Blanks and comments -/

/-- Drop a comment up to the end of its line; nothing if it holds a control character. -/
def comment? : List Char → Option (List Char)
  | '#' :: rest =>
    let body := rest.takeWhile fun c => c ≠ '\n'
    let after := rest.dropWhile fun c => c ≠ '\n'
    let body := if after.isEmpty then body
      else if body.getLast? = some '\r' then body.dropLast else body
    if body.all isPrintable then some after else none
  | cs => some cs

/-- Read the end of a statement: blanks, perhaps a comment, and the end of the line. -/
def endOfLine? (cs : List Char) : Option (List Char) := do
  match ← comment? (cs.dropWhile isBlank) with
  | [] => some []
  | rest => newline? rest

/-- Drop blanks, comments and ends of lines. -/
def skipAll? : (fuel : Nat) → List Char → Option (List Char)
  | 0, cs => some cs
  | fuel + 1, cs => do
    let rest ← comment? (cs.dropWhile isBlank)
    match newline? rest with
    | some rest => skipAll? fuel rest
    | none => some rest

/-- Drop all blanks, comments and ends of lines. -/
def skip? (cs : List Char) : Option (List Char) := skipAll? (cs.length + 1) cs

/-! ### Keys -/

/-- The characters of a key without quotes. -/
def isBareChar (c : Char) : Bool := c.isAlphanum || c = '_' || c = '-'

/-- Read one part of a key. -/
def simpleKey? (cs : List Char) : Option (String × List Char) :=
  match cs with
  | '"' :: _ | '\'' :: _ => quoted? cs
  | _ =>
    let bare := cs.takeWhile isBareChar
    if bare.isEmpty then none else some (String.ofList bare, cs.dropWhile isBareChar)

/-- Read a dotted key: the parts in front, the last part, and what follows. -/
def key? : (fuel : Nat) → List Char → Option (List String × String × List Char)
  | 0, _ => none
  | fuel + 1, cs => do
    let (part, rest) ← simpleKey? (cs.dropWhile isBlank)
    match rest.dropWhile isBlank with
    | '.' :: rest =>
      let (path, last, rest) ← key? fuel rest
      return (part :: path, last, rest)
    | rest => return ([], part, rest)

/-- Read a dotted key. -/
def dottedKey? (cs : List Char) : Option (List String × String × List Char) :=
  key? (cs.length + 1) cs

/-! ### Values -/

mutual

/-- Read a value with `depth` levels of nesting left.  Each call reads at least one character or
goes from a list to its items, so twice the length of the text bounds `fuel`. -/
def value? : (fuel depth : Nat) → List Char → Option (Json × List Char)
  | 0, _, _ => none
  | fuel + 1, depth, cs =>
    match cs with
    | '"' :: _ | '\'' :: _ => (text? cs).map fun r => (.str r.1, r.2)
    | '[' :: rest =>
      if depth = 0 then none
      else (items? fuel (depth - 1) rest).map fun r => (.arr r.1, r.2)
    | '\x7b' :: rest =>
      if depth = 0 then none
      else
        match rest.dropWhile isBlank with
        | '\x7d' :: rest => some (.obj [], rest)
        | rest =>
          (inlineMembers? fuel (depth - 1) [] rest).map fun r => (.obj (membersJson r.1), r.2)
    | _ => scalarValue? cs

/-- Read the items of a list up to its closing bracket. -/
def items? : (fuel depth : Nat) → List Char → Option (List Json × List Char)
  | 0, _, _ => none
  | fuel + 1, depth, cs => do
    match ← skip? cs with
    | ']' :: rest => return ([], rest)
    | rest =>
      let (item, rest) ← value? fuel depth rest
      match ← skip? rest with
      | ',' :: rest =>
        let (items, rest) ← items? fuel depth rest
        return (item :: items, rest)
      | ']' :: rest => return ([item], rest)
      | _ => none

/-- Read the members of a table written as a value up to its closing brace. -/
def inlineMembers? : (fuel depth : Nat) → Members → List Char → Option (Members × List Char)
  | 0, _, _, _ => none
  | fuel + 1, depth, members, cs => do
    let (path, key, rest) ← dottedKey? cs
    match rest with
    | '=' :: rest =>
      let (value, rest) ← value? fuel depth (rest.dropWhile isBlank)
      let members ← members.assign key (.value value) path
      match rest.dropWhile isBlank with
      | ',' :: rest => inlineMembers? fuel depth members rest
      | '\x7d' :: rest => return (members, rest)
      | _ => none
    | _ => none

end

/-! ### Statements -/

/-- What a statement leaves: the path of the table that keys belong to, and the document. -/
structure State where
  /-- The path of the current table. -/
  path : List String := []
  /-- The document. -/
  root : Members := []
  deriving Inhabited

/-- Read a statement, up to the end of its line. -/
def statement? (s : State) (cs : List Char) : Option (State × List Char) := do
  match cs with
  | '[' :: '[' :: rest =>
    let (path, key, rest) ← dottedKey? rest
    match rest with
    | ']' :: ']' :: rest =>
      return (⟨path ++ [key], ← s.root.append key path⟩, ← endOfLine? rest)
    | _ => none
  | '[' :: rest =>
    let (path, key, rest) ← dottedKey? rest
    match rest with
    | ']' :: rest => return (⟨path ++ [key], ← s.root.declare key path⟩, ← endOfLine? rest)
    | _ => none
  | _ =>
    let (path, key, rest) ← dottedKey? cs
    match rest with
    | '=' :: rest =>
      let start := rest.dropWhile isBlank
      let (value, rest) ← value? (2 * start.length + 2) maxDepth start
      let root ← s.root.within (·.assign key (.value value) path) s.path
      return ({ s with root }, ← endOfLine? rest)
    | _ => none

/-- Read statements up to the end of the document. -/
def statements? : (fuel : Nat) → State → List Char → Option Members
  | 0, _, _ => none
  | fuel + 1, s, cs => do
    match ← skip? cs with
    | [] => return s.root
    | rest =>
      let (s, rest) ← statement? s rest
      statements? fuel s rest

/-- The object that a document writes. -/
def document? (text : String) : Option Json := do
  let cs := match text.toList with
    | '\uFEFF' :: rest => rest
    | cs => cs
  return .obj (membersJson (← statements? (cs.length + 1) {} cs))

end BrowserGrid.Toml
