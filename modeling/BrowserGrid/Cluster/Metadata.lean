import BrowserGrid.Json.Record
/-!
# Metadata of cluster objects

Every pod and service has `Metadata`: a name, or a start from which the platform makes one, and
labels.  A label selector `key=value` picks the objects with that label.
-/

namespace BrowserGrid

/-- What names and marks an object of the cluster. -/
structure Metadata where
  /-- The name. -/
  name : Option String := none
  /-- What a name that the platform makes starts with. -/
  generateName : Option String := none
  /-- The labels. -/
  labels : KeyMap String := KeyMap.empty
  deriving DecidableEq, Inhabited

namespace Metadata

open Json.Record in
/-- The JSON form. -/
def toJson (m : Metadata) : Json :=
  write [("name", text? m.name), ("generateName", text? m.generateName),
    ("labels", texts? m.labels)]

open Json.Record in
/-- Read the JSON form. -/
def ofJson? : Json → Option Metadata :=
  read? do
    return {
      name := ← optional "name" Json.text?
      generateName := ← optional "generateName" Json.text?
      labels := ← defaulted "labels" KeyMap.empty Json.textMap? }

end Metadata

end BrowserGrid
