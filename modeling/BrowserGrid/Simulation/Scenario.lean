import BrowserGrid.Simulation.World
/-!
# Scenarios written as JSON

What a simulated hub is set up with, and the proxies that are added to it, written as JSON objects
in which anything may be missing or null.
-/

namespace BrowserGrid.Simulation

open Json.Record

/-- A field with a value for when it is missing or null. -/
def given (name : String) (standard : α) (read : Json → Option α) : Reader α := do
  return (← optional name read).getD standard

/-- A text, empty unless given. -/
def givenText (name : String) : Reader String := given name "" Json.text?

/-- A number, zero unless given. -/
def givenNat (name : String) : Reader Nat := given name 0 (Json.nat? Text.maxLong)

/-- A truth value, false unless given. -/
def givenFlag (name : String) : Reader Bool := given name false Json.bool?

/-! ### Proxies -/

/-- The slots of a proxy: a list of capabilities, or a number of slots for one browser. -/
def slotsOf? : Json → Option (List Capabilities)
  | .arr items => items.mapM Capabilities.ofJson?
  | j => (j.nat? Text.maxLong).map fun n =>
    List.replicate n (Capabilities.empty.insert "browserName" (.str "chrome"))

/-- Which requests a scripted proxy serves. -/
def matcherScript : Reader MatcherScript := do
  let name ← givenText "matcher"
  let call ← givenNat "panic_on"
  return match name with
    | "fleet" => .fleet
    | "cloud" => .cloud
    | "panic" => .breaking call
    | _ => .plain

/-- A proxy that follows a script. -/
def scriptedProxy : Reader ProxyScript := do
  let kind := if (← givenText "kind") = "cloud" then ProxyKind.cloud else .container
  return .scripted (← givenText "id") kind (← given "slots" [] slotsOf?) (← givenFlag "single_use")
    (← optional "backing" Json.text?) (← matcherScript)
    (.scripted (← givenNat "hook_ms") (← givenFlag "hook_fails") (← givenNat "teardown_ms"))

/-- A proxy. -/
def proxyScript : Reader ProxyScript := do
  match ← givenText "type" with
  | "container" =>
    return .node (← givenText "remote") (← required "registration" NodeRegistration.ofJson?)
      (← given "capabilities" [] slotsOf?)
  | "cloud" => return .provider (← required "config" Provider.ofJson?)
  | _ => scriptedProxy

/-- The proxy that a value describes. -/
def ProxyScript.ofJson? : Json → Option ProxyScript := read? proxyScript

/-! ### The set-up -/

/-- How nodes are started. -/
def provisionScript : Reader ProvisionScript := do
  match ← givenText "type" with
  | "container" => return .pods (← required "config" Provisioner.ofJson?)
  | "scripted" =>
    return .scripted (← given "browsers" [] (Json.list? Json.text?)) (← givenNat "failures")
      (← givenNat "delay_ms")
  | _ => return .none

/-- The defaults of the fleet. -/
def fleetDefaults : Reader FleetDefaults := do
  let usual : FleetDefaults := {}
  return {
    screenResolution := ← given "screen_resolution" usual.screenResolution Json.text?
    timeZone := ← given "time_zone" usual.timeZone Json.text? }

/-- What a hub is run with. -/
def setup : Reader Setup := do
  return {
    byPriority := (← givenText "prioritizer") = "capability"
    pollMs := ← given "poll_ms" 5000 (Json.nat? Text.maxLong)
    waitMs := ← given "wait_ms" 300000 (Json.nat? Text.maxLong)
    defaults := ← given "defaults" {} (read? fleetDefaults)
    client := ← given "client" {} Cluster.Client.ofJson?
    provisioning := ← given "provisioner" .none (read? provisionScript) }

/-- What a value says that a hub is run with. -/
def Setup.ofJson? : Json → Option Setup := read? setup

end BrowserGrid.Simulation
