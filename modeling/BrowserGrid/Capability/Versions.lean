import BrowserGrid.Capability
import BrowserGrid.Capability.Platform
/-!
# Browser versions on the local fleet

`Versions` is the table of the versions last seen on the slots of the local fleet.  Looking at an
offer may update it (`observe`), and `canServe` answers from it whether a request belongs on the
local fleet.
-/

namespace BrowserGrid

/-- The version last seen of each browser; an empty one says that the browser is there. -/
structure Versions where
  /-- The version by browser. -/
  table : KeyMap String
  deriving DecidableEq

namespace Versions

instance : Inhabited Versions := ⟨⟨KeyMap.empty⟩⟩

/-- No browser. -/
def empty : Versions := ⟨KeyMap.empty⟩

/-- The browsers whose versions are taken from offers. -/
def tracked : List String := ["chrome", "firefox"]

/-- The spelling under which a browser stands in the table. -/
def browserKey (browser : String) : String := Text.lower (Text.trim browser)

/-- Note the version of a browser. -/
def record (v : Versions) (browser version : String) : Versions :=
  ⟨v.table.insert (browserKey browser) version⟩

/-- The table of browsers noted in order. -/
def ofList (browsers : List (String × String)) : Versions :=
  browsers.foldl (fun v b => v.record b.1 b.2) empty

/-- The version of a tracked browser that an offer states. -/
def sighting? (offered : Capabilities) : Option (String × String) := do
  let browser ← offered.browserName?
  let version ← (offered.version?).bind Text.trimmed?
  if tracked.contains (Text.lower browser) then return (Text.lower browser, version) else none

/-- Note the version that an offer states. -/
def observe (v : Versions) (offered : Capabilities) : Versions :=
  match sighting? offered with
  | some (browser, version) => v.record browser version
  | none => v

/-- The version last seen of a browser. -/
def latest? (v : Versions) (browser : String) : Option String := v.table.get? (browserKey browser)

/-- Whether the local fleet, as last seen, can serve a request: it has the browser, in the version
that the request insists on, and the platform that the request insists on is Linux. -/
def canServe (v : Versions) (requested : Capabilities) : Bool :=
  match requested.browserName?.bind v.latest? with
  | none => false
  | some known =>
    (match requested.pinnedVersion? with
      | some version => Text.trim known == Text.trim version
      | none => true) &&
    (match requested.pinnedPlatform? with
      | some platform => PlatformFamily.satisfies "LINUX" platform
      | none => true)

end Versions

end BrowserGrid
