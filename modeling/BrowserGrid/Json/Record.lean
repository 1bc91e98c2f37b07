import BrowserGrid.Json
/-!
# Records written as JSON

A record is read from an object, by the names of its fields, or from a list, by their order.  A
`Reader` takes the fields one after the other; it refuses a name that stands twice, a field that is
missing without being optional, and a list that goes on after the last field.  `write` builds the
object of the fields that are present.
-/

namespace BrowserGrid.Json.Record

/-- The fields of a record that are still to be read. -/
inductive Source where
  /-- The members of an object. -/
  | named (members : List (String × Json))
  /-- The items of a list. -/
  | listed (items : List Json)

/-- A reader of some fields of a record. -/
abbrev Reader (α : Type) := StateT Source Option α

/-- Take the value of the next field, if it is there. -/
def take (name : String) : Reader (Option Json) := fun source =>
  match source with
  | .named members =>
    match members.filter (·.1 = name) with
    | [] => some (none, source)
    | [member] => some (some member.2, source)
    | _ => none
  | .listed [] => some (none, source)
  | .listed (item :: rest) => some (some item, .listed rest)

/-- A field that must be there. -/
def required (name : String) (read : Json → Option α) : Reader α := do
  match ← take name with
  | some j => read j
  | none => failure

/-- A field with a value for when it is missing. -/
def defaulted (name : String) (value : α) (read : Json → Option α) : Reader α := do
  match ← take name with
  | some j => read j
  | none => return value

/-- A field that is null, or missing in either form, when it has no value. -/
def optional (name : String) (read : Json → Option α) : Reader (Option α) :=
  defaulted name none (Json.optional? read)

/-- A field that is null when it has no value, and that only an object may leave out. -/
def nullable (name : String) (read : Json → Option α) : Reader (Option α) := fun source =>
  match source with
  | .named _ => optional name read source
  | .listed _ => required name (Json.optional? read) source

/-- Read a record from an object or a list. -/
def read? (reader : Reader α) : Json → Option α
  | .obj members => (reader.run (.named members)).map (·.1)
  | .arr items =>
    match reader.run (.listed items) with
    | some (a, .listed []) => some a
    | _ => none
  | _ => none

/-- The object of the fields that are present. -/
def write (fields : List (String × Option Json)) : Json :=
  .obj (fields.filterMap fun (name, value) => value.map (name, ·))

/-- A text, when there is one. -/
def text? (value : Option String) : Option Json := value.map .str

/-- A list, unless it is empty. -/
def unlessEmpty (items : List Json) : Option Json :=
  if items.isEmpty then none else some (.arr items)

/-- A map of texts, unless it is empty. -/
def texts? (m : KeyMap String) : Option Json :=
  if m.isEmpty then none else some (.ofTextMap m)

end BrowserGrid.Json.Record
