import BrowserGrid.Json.Parser
import BrowserGrid.Text.Integer
/-!
# Bodies of requests

The body of a request is a record of named fields (`Field`).  It is read from front to back, and the
first fault counts: `malformed` if the text is no JSON up to there, `unexpected` if it is but says
something that the record does not have.  Members with unknown names are skipped, and only their
form is checked.
-/

namespace BrowserGrid.Api

open Json.Grammar

/-- Why a body is refused. -/
inductive BodyFault where
  /-- The text is no JSON. -/
  | malformed
  /-- The JSON is not what was asked for. -/
  | unexpected
  deriving DecidableEq, Inhabited

/-- What a field holds. -/
inductive Content where
  /-- A text. -/
  | text
  /-- A text or null. -/
  | textOrNull
  /-- A natural number or null. -/
  | countOrNull
  /-- An object. -/
  | object
  /-- A list of objects. -/
  | objects
  deriving DecidableEq, Inhabited

/-- How a field may be left out. -/
inductive Omission where
  /-- It must be there. -/
  | never
  /-- An object may leave it out. -/
  | fromObject
  /-- A list may leave it out as well. -/
  | always
  deriving DecidableEq, Inhabited

/-- A field of a body. -/
structure Field where
  /-- Its name. -/
  name : String
  /-- What it holds. -/
  content : Content
  /-- How it may be left out. -/
  omission : Omission := .never
  deriving DecidableEq, Inhabited

namespace Body

/-- Something read from the front of a text, and the rest of the text. -/
abbrev Rest (α : Type) := α × List Char

/-- The depth to which the values of a body may be nested below its record. -/
def fieldDepth : Nat := maxDepth - 1

/-! ### Skipping -/

/-- Skip hexadecimal digits. -/
def skipHex? : (n : Nat) → List Char → Option (List Char)
  | 0, cs => some cs
  | n + 1, c :: cs => if (hexDigitValue? c).isSome then skipHex? n cs else none
  | _ + 1, [] => none

/-- Skip the rest of a text in quotes; `fuel` is at least the number of characters. -/
def skipText? : (fuel : Nat) → List Char → Option (List Char)
  | 0, _ => none
  | _ + 1, [] => none
  | _ + 1, '"' :: rest => some rest
  | fuel + 1, '\\' :: 'u' :: rest => (skipHex? 4 rest).bind (skipText? fuel)
  | fuel + 1, '\\' :: c :: rest =>
    if (simpleEscape? c).isSome then skipText? fuel rest else none
  | fuel + 1, c :: rest => if c.toNat < 0x20 || c = '\\' then none else skipText? fuel rest

/-- Skip digits, at least one. -/
def skipDigits? (cs : List Char) : Option (List Char) :=
  match cs with
  | c :: rest => if c.isDigit then some (rest.dropWhile Char.isDigit) else none
  | [] => none

/-- Skip a number. -/
def skipNumber? (cs : List Char) : Option (List Char) := do
  let cs := if cs.head? = some '-' then cs.drop 1 else cs
  let cs ← match cs with
    | '0' :: rest => if rest.head?.any Char.isDigit then none else some rest
    | cs => skipDigits? cs
  let cs ← match cs with
    | '.' :: rest => skipDigits? rest
    | cs => some cs
  match cs with
  | e :: sign :: rest =>
    if e = 'e' ∨ e = 'E' then
      skipDigits? (if sign = '+' ∨ sign = '-' then rest else sign :: rest)
    else some cs
  | [e] => if e = 'e' ∨ e = 'E' then none else some cs
  | [] => some cs

mutual

/-- Skip a value of any depth. -/
def skipValue? : (fuel : Nat) → List Char → Option (List Char)
  | 0, _ => none
  | fuel + 1, cs =>
    match skipSpace cs with
    | 'n' :: rest => (word? "ull" () rest).map (·.2)
    | 't' :: rest => (word? "rue" () rest).map (·.2)
    | 'f' :: rest => (word? "alse" () rest).map (·.2)
    | '"' :: rest => skipText? (rest.length + 1) rest
    | '[' :: rest =>
      match skipSpace rest with
      | ']' :: rest => some rest
      | rest => skipItems? fuel rest
    | '{' :: rest =>
      match skipSpace rest with
      | '}' :: rest => some rest
      | rest => skipMembers? fuel rest
    | other => skipNumber? other

/-- Skip the items of a list up to its closing bracket. -/
def skipItems? : (fuel : Nat) → List Char → Option (List Char)
  | 0, _ => none
  | fuel + 1, cs => do
    match skipSpace (← skipValue? fuel cs) with
    | ',' :: rest => skipItems? fuel rest
    | ']' :: rest => some rest
    | _ => none

/-- Skip the members of an object up to its closing brace. -/
def skipMembers? : (fuel : Nat) → List Char → Option (List Char)
  | 0, _ => none
  | fuel + 1, cs => do
    match skipSpace cs with
    | '"' :: rest =>
      match skipSpace (← skipText? (rest.length + 1) rest) with
      | ':' :: rest =>
        match skipSpace (← skipValue? fuel rest) with
        | ',' :: rest => skipMembers? fuel rest
        | '}' :: rest => some rest
        | _ => none
      | _ => none
    | _ => none

end

/-! ### The values of fields -/

/-- A step that can only fail because the text is no JSON. -/
def wellFormed (step : Option (α × List Char)) : Except BodyFault (Rest α) :=
  match step with
  | some result => .ok result
  | none => .error .malformed

/-- The fault of a value that is not of the kind that was asked for: a list or an object is refused
at its first character, any other value once it has been read. -/
def misplaced (cs : List Char) : BodyFault :=
  match skipSpace cs with
  | '[' :: _ => .unexpected
  | '{' :: _ => .unexpected
  | cs => if (value? 1 1 cs).isSome then .unexpected else .malformed

/-- Read a text. -/
def readText (cs : List Char) : Except BodyFault (Rest Json) :=
  match skipSpace cs with
  | '"' :: rest => wellFormed ((string? ('"' :: rest)).map fun r => (.str r.1, r.2))
  | cs => .error (misplaced cs)

/-- Read a natural number. -/
def readCount (cs : List Char) : Except BodyFault (Rest Json) :=
  match number? (skipSpace cs) with
  | some (.int n, rest) =>
    if 0 ≤ n ∧ n ≤ Text.maxLong then .ok (.int n, rest) else .error .unexpected
  | _ => .error (misplaced cs)

/-- Read an object with `depth` levels of nesting left. -/
def readObject (depth : Nat) (cs : List Char) : Except BodyFault (Rest Json) :=
  match skipSpace cs with
  | '{' :: rest => wellFormed (next? depth ('{' :: rest))
  | cs => .error (misplaced cs)

/-- Read null, or what `read` reads. -/
def orNull (read : List Char → Except BodyFault (Rest Json)) (cs : List Char) :
    Except BodyFault (Rest Json) :=
  match skipSpace cs with
  | 'n' :: rest => wellFormed (word? "ull" .null rest)
  | cs => read cs

/-- Read the objects of a list up to its closing bracket. -/
def readObjects : (fuel : Nat) → List Char → Except BodyFault (Rest (List Json))
  | 0, _ => .error .malformed
  | fuel + 1, cs => do
    let (j, rest) ← readObject (fieldDepth - 1) cs
    match skipSpace rest with
    | ',' :: rest =>
      match skipSpace rest with
      | ']' :: _ => .error .malformed
      | rest =>
        let (js, rest) ← readObjects fuel rest
        return (j :: js, rest)
    | ']' :: rest => return ([j], rest)
    | _ => .error .malformed

/-- Read a list of objects. -/
def readObjectList (cs : List Char) : Except BodyFault (Rest Json) :=
  match skipSpace cs with
  | '[' :: rest =>
    match skipSpace rest with
    | ']' :: rest => .ok (.arr [], rest)
    | rest => (readObjects (rest.length + 1) rest).map fun r => (.arr r.1, r.2)
  | cs => .error (misplaced cs)

/-- Read what a field holds. -/
def readContent : Content → List Char → Except BodyFault (Rest Json)
  | .text => readText
  | .textOrNull => orNull readText
  | .countOrNull => orNull readCount
  | .object => readObject fieldDepth
  | .objects => readObjectList

/-! ### The record -/

/-- Read the members of an object up to its closing brace, of which `found` have been read. -/
def readMembers (fields : List Field) :
    (fuel : Nat) → (found : List (String × Json)) → List Char →
      Except BodyFault (Rest (List (String × Json)))
  | 0, _, _ => .error .malformed
  | fuel + 1, found, cs => do
    let (name, rest) ← wellFormed (string? (skipSpace cs))
    let field := fields.find? (·.name = name)
    if field.isSome ∧ (KeyMap.lookup name found).isSome then throw .unexpected
    match skipSpace rest with
    | ':' :: rest =>
      let (found, rest) ← match field with
        | some field => (readContent field.content rest).map fun r => ((name, r.1) :: found, r.2)
        | none => wellFormed ((skipValue? (rest.length + 1) rest).map (found, ·))
      match skipSpace rest with
      | ',' :: rest => readMembers fields fuel found rest
      | '}' :: rest => return (found, rest)
      | _ => throw .malformed
    | _ => throw .malformed

/-- Every field that an object must have is there. -/
def complete (fields : List Field) (found : List (String × Json)) : Bool :=
  fields.all fun f => f.omission ≠ .never || (KeyMap.lookup f.name found).isSome

/-- Read the record from an object, after its opening brace. -/
def readNamed (fields : List Field) (cs : List Char) :
    Except BodyFault (Rest (List (String × Json))) := do
  let (found, rest) ← match skipSpace cs with
    | '}' :: rest => pure ([], rest)
    | cs => readMembers fields (cs.length + 1) [] cs
  if complete fields found then return (found, rest) else throw .unexpected

/-- The end of a list whose fields have all been read. -/
def closeList (found : List (String × Json)) (cs : List Char) :
    Except BodyFault (Rest (List (String × Json))) :=
  match skipSpace cs with
  | ']' :: rest => .ok (found, rest)
  | _ => .error .malformed

/-- Read the record from a list, after its opening bracket. -/
def readListed (first : Bool) : List Field → (found : List (String × Json)) → List Char →
    Except BodyFault (Rest (List (String × Json)))
  | [], found, cs => closeList found cs
  | field :: fields, found, cs =>
    match skipSpace cs with
    | ']' :: _ =>
      if (field :: fields).all (·.omission = .always) then closeList found cs
      else .error .unexpected
    | cs => do
      let cs ← if first then pure cs else
        match cs with
        | ',' :: rest =>
          match skipSpace rest with
          | ']' :: _ => throw .malformed
          | rest => pure rest
        | _ => throw .malformed
      let (j, rest) ← readContent field.content cs
      readListed false fields ((field.name, j) :: found) rest

/-- Read the record of a body. -/
def readRecord (fields : List Field) (cs : List Char) :
    Except BodyFault (Rest (List (String × Json))) :=
  match skipSpace cs with
  | '{' :: rest => readNamed fields rest
  | '[' :: rest => readListed true fields [] rest
  | cs => .error (misplaced cs)

/-- Read a body, after which nothing may follow. -/
def read (fields : List Field) (body : String) : Except BodyFault Json := do
  let (found, rest) ← readRecord fields body.toList
  if (skipSpace rest).isEmpty then return (Json.obj found).canonical else throw .malformed

end Body

end BrowserGrid.Api
