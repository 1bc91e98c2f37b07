import BrowserGrid.Json
/-!
# Writing JSON

`Json.render` writes a value without blanks; `Json.pretty` puts every member and item on a line of
its own, indented by two blanks for each level.  A floating-point number has the fewest digits that
read back, written out for exponents from -5 to 15 and always with a point.
-/

namespace BrowserGrid.Json

/-- The layout of floating-point numbers. -/
def realLayout : Decimal.Layout := ⟨some (-5, 15), true, "+"⟩

/-- The text of a number; what is no finite number is null. -/
def Number.text : Number → String
  | .int n => toString n
  | .real x => if x.isFinite then x.text realLayout else "null"

/-- The digits of base sixteen of a character below U+0100. -/
def hexByte (n : Nat) : List Char :=
  let digit (d : Nat) : Char := "0123456789abcdef".toList.getD d '0'
  [digit (n / 16 % 16), digit (n % 16)]

/-- A character inside a quoted text. -/
def escapeChar (c : Char) : List Char :=
  if c = '"' then ['\\', '"']
  else if c = '\\' then ['\\', '\\']
  else if c = '\x08' then ['\\', 'b']
  else if c = '\x0c' then ['\\', 'f']
  else if c = '\n' then ['\\', 'n']
  else if c = '\r' then ['\\', 'r']
  else if c = '\t' then ['\\', 't']
  else if c.toNat < 0x20 then ['\\', 'u', '0', '0'] ++ hexByte c.toNat
  else [c]

/-- A text between quotes. -/
def quote (s : String) : String :=
  String.ofList ('"' :: s.toList.flatMap escapeChar ++ ['"'])

mutual

/-- The text of a value without blanks. -/
def render : Json → String
  | .null => "null"
  | .bool true => "true"
  | .bool false => "false"
  | .num n => n.text
  | .str s => quote s
  | .arr items => "[" ++ renderItems items ++ "]"
  | .obj members => "\x7b" ++ renderMembers members ++ "\x7d"

/-- Values with commas between them. -/
def renderItems : List Json → String
  | [] => ""
  | [j] => render j
  | j :: rest => render j ++ "," ++ renderItems rest

/-- Members with commas between them. -/
def renderMembers : List (String × Json) → String
  | [] => ""
  | [(k, j)] => quote k ++ ":" ++ render j
  | (k, j) :: rest => quote k ++ ":" ++ render j ++ "," ++ renderMembers rest

end

/-- The blanks in front of a line of a level. -/
def indent (level : Nat) : String := String.ofList (List.replicate (2 * level) ' ')

mutual

/-- The text of a value with a line for every member and item, inside `level` others. -/
def prettyAt (level : Nat) : Json → String
  | .arr [] => "[]"
  | .arr (j :: rest) => "[\n" ++ prettyItems (level + 1) (j :: rest) ++ "\n" ++ indent level ++ "]"
  | .obj [] => "\x7b\x7d"
  | .obj (m :: rest) =>
    "\x7b\n" ++ prettyMembers (level + 1) (m :: rest) ++ "\n" ++ indent level ++ "\x7d"
  | .null => "null"
  | .bool true => "true"
  | .bool false => "false"
  | .num n => n.text
  | .str s => quote s

/-- The lines of the items of a list. -/
def prettyItems (level : Nat) : List Json → String
  | [] => ""
  | [j] => indent level ++ prettyAt level j
  | j :: rest => indent level ++ prettyAt level j ++ ",\n" ++ prettyItems level rest

/-- The lines of the members of an object. -/
def prettyMembers (level : Nat) : List (String × Json) → String
  | [] => ""
  | [(k, j)] => indent level ++ quote k ++ ": " ++ prettyAt level j
  | (k, j) :: rest =>
    indent level ++ quote k ++ ": " ++ prettyAt level j ++ ",\n" ++ prettyMembers level rest

end

/-- The text of a value over several lines. -/
def pretty (j : Json) : String := prettyAt 0 j

end BrowserGrid.Json
