import BrowserGrid.Json.Record
import BrowserGrid.Proxy
/-!
# Browser nodes as proxies

A browser pod that has announced itself becomes a single-use proxy (`Proxy.node`).  Its slots are
what it announced, completed by the screen and the time zone that nodes run with by default.
-/

namespace BrowserGrid

/-- What the hub knows of the pod behind a node. -/
structure NodeRegistration where
  /-- The name of the pod. -/
  containerId : String
  /-- The address of the pod. -/
  ipAddress : String
  /-- The outside port of its screen. -/
  screenPort : Option Nat
  deriving DecidableEq, Inhabited

namespace NodeRegistration

/-- The JSON form. -/
def toJson (r : NodeRegistration) : Json :=
  .obj [("containerId", .str r.containerId), ("ipAddress", .str r.ipAddress),
    ("noVncPort", .ofOption Json.nat r.screenPort)]

open Json.Record in
/-- Read the JSON form. -/
def ofJson? : Json → Option NodeRegistration :=
  read? do
    return {
      containerId := ← required "containerId" Json.text?
      ipAddress := ← required "ipAddress" Json.text?
      screenPort := ← nullable "noVncPort" (Json.nat? Text.maxPort) }

end NodeRegistration

/-- What a slot of a node offers: the announced capabilities, and the defaults where they state no
screen or no time zone. -/
def FleetDefaults.complete (defaults : FleetDefaults) (announced : Capabilities) : Capabilities :=
  let c := announced.namespaced
  let c :=
    if c.screenResolution?.isNone then
      c.insert (Capabilities.prefixed "screenResolution") (.str defaults.screenResolution)
    else c
  if c.timeZone?.isNone then
    c.insert (Capabilities.prefixed "tz") (.str defaults.timeZone)
  else c

/-- The proxy of a node. -/
def Proxy.node (serial : Nat) (id : ProxyId) (registration : NodeRegistration)
    (announced : List Capabilities) (defaults : FleetDefaults) : Proxy Versions where
  serial
  id
  kind := .container
  slots := announced.map defaults.complete
  singleUse := true
  backing := some registration.containerId
  judge := judgeBy (.fleet defaults)

end BrowserGrid
