import BrowserGrid.Json
import BrowserGrid.Settings.Environment
import BrowserGrid.Text.Ascii
import BrowserGrid.Text.Integer
/-!
# Layers of settings

Settings come in layers, each laid over the ones before: objects are merged member by member, and
anything else replaces what was there (`merge`).  A layer is a list of values with the places where
they go (`put`); a place is a path of keys and positions, such as `hub.browsers[0].name`.

The variables of the environment make a layer (`environmentLayer`): those that start with the
stem, in any case, with two underscores between the keys.
-/

namespace BrowserGrid.Settings

/-! ### Merging -/

/-- Put a value at a key of a list of members. -/
def putMember (key : String) (value : Json) : List (String × Json) → List (String × Json)
  | [] => [(key, value)]
  | (k, v) :: rest => if k = key then (k, value) :: rest else (k, v) :: putMember key value rest

/-- The members of an object; anything else has none. -/
def membersOf : Json → List (String × Json)
  | .obj members => members
  | _ => []

/-- The items of a list; anything else has none. -/
def itemsOf : Json → List Json
  | .arr items => items
  | _ => []

/-- The value at a key of a list of members; null if there is none. -/
def memberOf (key : String) (members : List (String × Json)) : Json :=
  ((members.find? (·.1 = key)).map (·.2)).getD .null

mutual

/-- Lay a value over another. -/
def merge (old : Json) : (new : Json) → Json
  | .obj members => .obj (mergeMembers (membersOf old) members)
  | .null => .null
  | .bool b => .bool b
  | .num n => .num n
  | .str s => .str s
  | .arr items => .arr items

/-- Lay members over others. -/
def mergeMembers (old : List (String × Json)) : (new : List (String × Json)) →
    List (String × Json)
  | [] => old
  | (key, value) :: rest => mergeMembers (putMember key (merge (memberOf key old) value) old) rest

end

/-! ### Places -/

/-- A step of a path. -/
inductive Step where
  /-- To the value at a key. -/
  | key (name : String)
  /-- To an item of a list, counted from the end if negative. -/
  | position (n : Int)
  deriving DecidableEq, Inhabited

/-- The place of an item: how many empty items come in front, and its number. -/
def place (n : Int) (length : Nat) : Nat × Nat :=
  match n with
  | .ofNat n => (0, n)
  | .negSucc n => (n + 1 - length, length - (n + 1))

/-- Change the value at a path; a value that is in the way becomes an object or a list. -/
def change (f : Json → Json) : List Step → Json → Json
  | [], j => f j
  | .key name :: path, j =>
    let members := membersOf j
    .obj (putMember name (change f path (memberOf name members)) members)
  | .position n :: path, j =>
    let items := itemsOf j
    let (before, index) := place n items.length
    let items := List.replicate before .null ++ items
    let items := items ++ List.replicate (index + 1 - items.length) .null
    .arr (items.modify index (change f path))

/-- The characters of a key in a path. -/
def isKeyChar (c : Char) : Bool := c.isAlphanum || c = '_' || c = '-'

/-- Read a key of a path. -/
def pathKey? (cs : List Char) : Option (String × List Char) :=
  let name := cs.takeWhile isKeyChar
  if name.isEmpty then none else some (String.ofList name, cs.dropWhile isKeyChar)

/-- Read a position of a path, after its bracket. -/
def position? (cs : List Char) : Option (Int × List Char) := do
  let isSpace (c : Char) : Bool := c = ' ' || c = '\t'
  let cs := cs.dropWhile isSpace
  let text := cs.takeWhile fun c => c.isDigit || c = '-'
  let n ← Text.integer? Text.minSigned Text.maxSigned (String.ofList text)
  match (cs.drop text.length).dropWhile isSpace with
  | ']' :: rest => return (n, rest)
  | _ => none

/-- Read the steps of a path after its first key. -/
def steps? : (fuel : Nat) → List Char → Option (List Step)
  | 0, _ => none
  | fuel + 1, cs => do
    match cs with
    | [] => return []
    | '.' :: rest =>
      let (name, rest) ← pathKey? rest
      return .key name :: (← steps? fuel rest)
    | '[' :: rest =>
      let (n, rest) ← position? rest
      return .position n :: (← steps? fuel rest)
    | _ => none

/-- The path that a text writes; a text that writes none is a key. -/
def pathOf (text : String) : List Step :=
  let read : Option (List Step) := do
    let (name, rest) ← pathKey? text.toList
    return .key name :: (← steps? (rest.length + 1) rest)
  read.getD [.key text]

/-- Lay a value over the settings at the place that a text writes. -/
def put (settings : Json) (place : String) (value : Json) : Json :=
  change (merge · value) (pathOf place) settings

/-- Lay the members of a document over the settings. -/
def putAll (settings : Json) (members : List (String × Json)) : Json :=
  members.foldl (fun j (key, value) => put j key value) settings

/-! ### The environment -/

/-- Replace every pair of underscores by a point, from the left. -/
def dotted : List Char → List Char
  | '_' :: '_' :: rest => '.' :: dotted rest
  | c :: rest => c :: dotted rest
  | [] => []

/-- The settings that variables name; `stem` is what their names start with in lower case. -/
def environmentLayer (stem : String) (env : Environment) : List (String × Json) :=
  (env.entries.foldl (fun layer (name, value) =>
    match Text.dropPrefix? stem (Text.lower name) with
    | some rest => layer.insert (String.ofList (dotted rest.toList)) (.str value)
    | none => layer) (KeyMap.empty : KeyMap Json)).entries

end BrowserGrid.Settings
