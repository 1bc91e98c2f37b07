import BrowserGrid.Text.Literal
/-!
# Outlines of values

An `Outline` shows a value with the names of its types and fields, every field and item on a line of
its own that ends in a comma, indented by four blanks for each level.  `Outline.text` writes it.
-/

namespace BrowserGrid

/-- What is shown of a value. -/
inductive Outline where
  /-- A word. -/
  | word (text : String)
  /-- No value. -/
  | absent
  /-- A value that could be absent. -/
  | present (value : Outline)
  /-- A list. -/
  | list (items : List Outline)
  /-- A record with its type and its fields. -/
  | record (type : String) (fields : List (String × Outline))
  deriving Inhabited

namespace Outline

/-- A number. -/
def nat (n : Nat) : Outline := .word (toString n)

/-- A text. -/
def str (s : String) : Outline := .word (Text.literal s)

/-- A value that may be absent. -/
def ofOption {α : Type} (outline : α → Outline) : Option α → Outline
  | some a => .present (outline a)
  | none => .absent

/-- The blanks in front of a line of a level. -/
def indent (level : Nat) : String := String.ofList (List.replicate (4 * level) ' ')

mutual

/-- The text of a value inside `level` others; its first line goes on where the line before ends. -/
def textAt (level : Nat) : Outline → String
  | .word s => s
  | .absent => "None"
  | .present v =>
    "Some(\n" ++ indent (level + 1) ++ textAt (level + 1) v ++ ",\n" ++ indent level ++ ")"
  | .list [] => "[]"
  | .list (v :: vs) => "[\n" ++ itemLines (level + 1) (v :: vs) ++ indent level ++ "]"
  | .record type [] => type
  | .record type (f :: fs) =>
    type ++ " \x7b\n" ++ fieldLines (level + 1) (f :: fs) ++ indent level ++ "\x7d"

/-- The lines of items. -/
def itemLines (level : Nat) : List Outline → String
  | [] => ""
  | v :: rest => indent level ++ textAt level v ++ ",\n" ++ itemLines level rest

/-- The lines of fields. -/
def fieldLines (level : Nat) : List (String × Outline) → String
  | [] => ""
  | (name, v) :: rest =>
    indent level ++ name ++ ": " ++ textAt level v ++ ",\n" ++ fieldLines level rest

end

/-- The text of a value. -/
def text (v : Outline) : String := textAt 0 v

end Outline

end BrowserGrid
