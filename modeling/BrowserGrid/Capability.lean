import BrowserGrid.Json.Printer
import BrowserGrid.Text.Blank
import BrowserGrid.Text.Ascii
import BrowserGrid.Text.Integer
/-!
# Capabilities

`Capabilities` maps names to JSON values and says what a client asks for or what a slot offers.
The keys that only this grid knows (`customKeys`) live under `customPrefix`, where
`namespaced` moves them; `custom?` finds such a value in either place.
-/

namespace BrowserGrid

/-- What a request asks for, or what a slot offers. -/
structure Capabilities where
  /-- The values by name. -/
  values : KeyMap Json
  deriving DecidableEq

namespace Capabilities

instance : Inhabited Capabilities := ⟨⟨KeyMap.empty⟩⟩

/-! ### Names -/

/-- What stands in front of the names of the grid's own keys. -/
def customPrefix : String := "hub:"

/-- The name of a custom key in its own namespace. -/
def prefixed (key : String) : String := customPrefix ++ key

/-- The keys that are moved under the custom prefix, in the order in which they are moved. -/
def customKeys : List String :=
  ["name", "build", "idleTimeout", "screenResolution", "resolution", "screen-resolution",
   "recordVideo", "tz", "priority"]

/-- The accepted spellings of the screen resolution, in the order in which they are looked up. -/
def resolutionKeys : List String := ["screenResolution", "resolution", "screen-resolution"]

/-- The accepted spellings of the version. -/
def versionKeys : List String := ["version", "browserVersion"]

/-- The accepted spellings of the platform. -/
def platformKeys : List String := ["platform", "platformName"]

/-! ### The map -/

/-- No capability at all. -/
def empty : Capabilities := ⟨KeyMap.empty⟩

/-- The value of a name. -/
def get? (c : Capabilities) (key : String) : Option Json := c.values.get? key

/-- Set the value of a name. -/
def insert (c : Capabilities) (key : String) (value : Json) : Capabilities :=
  ⟨c.values.insert key value⟩

/-- Remove a name. -/
def erase (c : Capabilities) (key : String) : Capabilities := ⟨c.values.erase key⟩

/-- Whether a name has a value, null being one. -/
def contains (c : Capabilities) (key : String) : Bool := c.values.contains key

/-- The object of the values. -/
def toJson (c : Capabilities) : Json := .ofMap c.values

/-- The text of the object. -/
def text (c : Capabilities) : String := c.toJson.render

/-- The capabilities that an object states. -/
def ofJson? (j : Json) : Option Capabilities := j.toMap?.map (⟨·⟩)

/-- Capabilities with the given values; of one name given twice the later counts. -/
def ofList (entries : List (String × Json)) : Capabilities := ⟨KeyMap.ofList entries⟩

/-- Whether two maps hold equal values. -/
def same (a b : Capabilities) : Bool := a.toJson.same b.toJson

/-! ### Values as text -/

/-- A value as text: a text is itself, null is nothing and anything else is its JSON text. -/
def valueText? : Json → Option String
  | .str s => some s
  | .null => none
  | other => some other.render

/-- The value of a name as text. -/
def text? (c : Capabilities) (key : String) : Option String := (c.get? key).bind valueText?

/-- The first of several names that has a value as text. -/
def firstOf? (c : Capabilities) (keys : List String) : Option String := keys.findSome? c.text?

/-- The value of a custom key: under its prefix, or else under its plain name. -/
def custom? (c : Capabilities) (key : String) : Option String :=
  (c.text? (prefixed key)).or (c.text? key)

/-- The browser asked for or offered; a blank name is none. -/
def browserName? (c : Capabilities) : Option String := (c.text? "browserName").bind Text.trimmed?

/-- The browser version. -/
def version? (c : Capabilities) : Option String := c.firstOf? versionKeys

/-- The platform. -/
def platform? (c : Capabilities) : Option String := c.firstOf? platformKeys

/-- The name of the application under test. -/
def applicationName? (c : Capabilities) : Option String := c.text? "applicationName"

/-- The screen resolution: the first spelling with a value counts, and a blank one is none. -/
def screenResolution? (c : Capabilities) : Option String :=
  (resolutionKeys.findSome? c.custom?).bind Text.trimmed?

/-- The time zone; a blank one is none. -/
def timeZone? (c : Capabilities) : Option String := (c.custom? "tz").bind Text.trimmed?

/-- The width and the height that a resolution `WIDTHxHEIGHT` states. -/
def dimensionsOf? (resolution : String) : Option (Nat × Nat) := do
  let (width, height) ← Text.cutAt? (fun ch => ch = 'x' || ch = 'X') resolution
  return (← Text.natural? Text.maxWord (Text.trim width),
    ← Text.natural? Text.maxWord (Text.trim height))

/-- The width and the height of the screen. -/
def screenDimensions? (c : Capabilities) : Option (Nat × Nat) :=
  c.screenResolution?.bind dimensionsOf?

/-! ### The namespace of the custom keys -/

/-- Move one plain key under the prefix, where a value that stands there already stays. -/
def moveKey (c : Capabilities) (key : String) : Capabilities :=
  match c.get? key with
  | none => c
  | some value => ⟨(c.values.erase key).insertNew (prefixed key) value⟩

/-- The capabilities with every custom key under its prefix. -/
def namespaced (c : Capabilities) : Capabilities := customKeys.foldl moveKey c

/-! ### Values that ask for nothing -/

/-- The words that accept any version or platform. -/
def wildcards : List String := ["", "*", "any", "latest"]

/-- Whether a requested value accepts anything. -/
def isWildcard (value : String) : Bool :=
  wildcards.any (Text.sameIgnoringCase (Text.trim value))

/-- The version that a request insists on. -/
def pinnedVersion? (c : Capabilities) : Option String := c.version?.filter (!isWildcard ·)

/-- The platform that a request insists on. -/
def pinnedPlatform? (c : Capabilities) : Option String := c.platform?.filter (!isWildcard ·)

/-! ### Priority -/

/-- The least and the largest priority. -/
def priorityRange : Int × Int := (-2147483648, 2147483647)

/-- The priority that the capabilities state, zero when they state none. -/
def priority (c : Capabilities) : Int :=
  ((c.custom? "priority").bind fun p =>
    Text.integer? priorityRange.1 priorityRange.2 (Text.trim p)).getD 0

end Capabilities

end BrowserGrid
