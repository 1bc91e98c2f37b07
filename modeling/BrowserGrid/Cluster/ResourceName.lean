import BrowserGrid.Cluster.Error
import BrowserGrid.Text.Ascii
/-!
# Names of pods and services

`ResourceName.check` accepts a name of small letters, digits, hyphens and points that starts and
ends with a letter or digit and has at most `maxBytes` bytes, and says what is wrong with any other.
-/

namespace BrowserGrid.ResourceName

/-- The length of the longest name. -/
def maxBytes : Nat := 253

/-- Small letters and digits. -/
def isAlphanumeric (c : Char) : Bool := c.isLower || c.isDigit

/-- The characters of a name. -/
def isNameChar (c : Char) : Bool := isAlphanumeric c || c = '-' || c = '.'

/-- Refuse a text that is no name. -/
def check (name : String) : Except ClusterError Unit :=
  let cs := name.toList
  if cs.isEmpty then .error (.invalidInput "resource name cannot be empty")
  else if Text.byteLength name > maxBytes then
    .error (.invalidInput "resource name exceeds maximum length")
  else if !cs.all isNameChar then
    .error (.invalidInput ("resource name '" ++ name ++ "' contains invalid characters"))
  else if !(cs.head?.any isAlphanumeric && cs.getLast?.any isAlphanumeric) then
    .error (.invalidInput ("resource name '" ++ name ++
      "' must start and end with an alphanumeric character"))
  else .ok ()

end BrowserGrid.ResourceName
