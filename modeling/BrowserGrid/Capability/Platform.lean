import BrowserGrid.Text.Blank
import BrowserGrid.Text.Ascii
/-!
# Platforms

A platform is the name of a release or of a family of releases.  An offered platform satisfies a
requested one when they are the same, or when the request names the family of the offer.
-/

namespace BrowserGrid

/-- A family of platforms. -/
inductive PlatformFamily where
  | linux
  | windows
  | mac
  deriving DecidableEq

namespace PlatformFamily

/-- The name of a family. -/
def name : PlatformFamily → String
  | .linux => "LINUX"
  | .windows => "WINDOWS"
  | .mac => "MAC"

/-- The names that belong to a family. -/
def members : PlatformFamily → List String
  | .linux => ["LINUX", "UNIX"]
  | .windows => ["WINDOWS", "XP", "VISTA", "WIN7", "WIN8", "WIN8_1", "WIN10", "WIN11"]
  | .mac => ["MAC", "MACOS", "MOJAVE", "CATALINA", "BIG_SUR", "MONTEREY", "VENTURA", "SONOMA"]

/-- The family of a platform, letter case and blanks around it aside. -/
def of? (platform : String) : Option PlatformFamily :=
  [linux, windows, mac].find? (·.members.contains (Text.upper (Text.trim platform)))

/-- Whether a platform is offered where another is requested. -/
def satisfies (offered requested : String) : Bool :=
  Text.sameIgnoringCase (Text.trim offered) (Text.trim requested) ||
    match of? offered with
    | some family => Text.upper (Text.trim requested) == family.name
    | none => false

end PlatformFamily

end BrowserGrid
