import BrowserGrid.Capability.Matcher
import BrowserGrid.Json.Record
/-!
# Nodes on demand

A `Provisioner` says what kind of pod is started for a request that finds no free slot, and how
many pods there may be.  `Provisioner.canProvision` admits the requests that the local fleet can
serve, and `nodeEnv` tells a new node what to run.
-/

namespace BrowserGrid

/-- How nodes are started. -/
structure Provisioner where
  /-- The image. -/
  image : String
  /-- What the names of the pods start with. -/
  namePrefix : String
  /-- The most pods that this hub may own. -/
  maxContainers : Nat
  /-- Where nodes find the hub. -/
  hubUrl : String
  /-- The port of a node's screen. -/
  screenPort : Nat
  /-- The port at which a node takes commands. -/
  nodePort : Option Nat
  deriving DecidableEq, Inhabited

namespace Provisioner

open Json.Record in
/-- Read the JSON form. -/
def ofJson? : Json → Option Provisioner :=
  read? do
    return {
      image := ← required "image" Json.text?
      namePrefix := ← required "name_prefix" Json.text?
      maxContainers := ← required "max_containers" (Json.nat? Text.maxLong)
      hubUrl := ← required "hub_url" Json.text?
      screenPort := ← required "novnc_port" (Json.nat? Text.maxPort)
      nodePort := ← nullable "node_port" (Json.nat? Text.maxPort) }

/-- The JSON form. -/
def toJson (p : Provisioner) : Json :=
  .obj [("image", .str p.image), ("name_prefix", .str p.namePrefix),
    ("max_containers", .nat p.maxContainers), ("hub_url", .str p.hubUrl),
    ("novnc_port", .nat p.screenPort), ("node_port", .ofOption Json.nat p.nodePort)]

/-- Whether a node could ever serve a request. -/
def canProvision (p : Provisioner) (versions : Versions) (requested : Capabilities) : Bool :=
  p.maxContainers > 0 && versions.canServe requested

/-- The screen of a node: as requested, else that of the defaults, else full high definition. -/
def screen (defaults : FleetDefaults) (requested : Capabilities) : Nat × Nat :=
  (requested.screenDimensions?.or
    ((Text.trimmed? defaults.screenResolution).bind Capabilities.dimensionsOf?)).getD (1920, 1080)

/-- The environment of the node for a request; `screenVar` names the port of its screen. -/
def nodeEnv (p : Provisioner) (defaults : FleetDefaults) (screenVar : String)
    (requested : Capabilities) : KeyMap String :=
  let (width, height) := screen defaults requested
  KeyMap.ofList <|
    [("SCREEN_WIDTH", toString width), ("SCREEN_HEIGHT", toString height),
      ("TZ", requested.timeZone?.getD defaults.timeZone)] ++
    (requested.browserName?.map fun browser => ("BROWSER", Text.lower browser)).toList ++
    [("GRID_HUB_URL", p.hubUrl), (screenVar, toString p.screenPort)]

end Provisioner

end BrowserGrid
