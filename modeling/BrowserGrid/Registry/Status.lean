import BrowserGrid.Registry
/-!
# The status of the registry

A `Status` is what the registry looks like at one moment: how much waits, how much runs, and what
is on every slot.
-/

namespace BrowserGrid.Registry

/-- A proxy and its slots at one moment. -/
structure ProxyStatus where
  /-- The identity. -/
  id : ProxyId
  /-- What it is. -/
  kind : ProxyKind
  /-- Whether it runs one session and is then removed. -/
  singleUse : Bool
  /-- The slots. -/
  slots : List Slot
  deriving DecidableEq, Inhabited

/-- The registry at one moment. -/
structure Status where
  /-- How many requests wait. -/
  pending : Nat
  /-- How many sessions run. -/
  active : Nat
  /-- Whether the registry is stopped. -/
  stopped : Bool
  /-- The proxies in the order of their identities. -/
  proxies : List ProxyStatus
  deriving DecidableEq, Inhabited

/-- The status of a registered proxy. -/
def Entry.status (e : Entry ω) : ProxyStatus :=
  ⟨e.proxy.id, e.proxy.kind, e.proxy.singleUse, e.slots⟩

/-- The status of the registry. -/
def status (r : Registry ω) : Status :=
  ⟨r.pending.length, r.active.length, r.stopped, r.live.values.map Entry.status⟩

/-- The key on a slot as JSON. -/
def keyJson (key : Option SessionKey) : Json := .ofOption (fun k => .str k.text) key

/-- The JSON form. -/
def ProxyStatus.toJson (p : ProxyStatus) : Json :=
  .obj [("id", .str p.id), ("kind", .str p.kind.name), ("single_use", .bool p.singleUse),
    ("slots", .arr (p.slots.map fun s =>
      .obj [("capabilities", s.capabilities.toJson), ("session", keyJson s.session)]))]

/-- The members of the JSON form. -/
def Status.members (s : Status) : List (String × Json) :=
  [("pending", .nat s.pending), ("active", .nat s.active), ("stopped", .bool s.stopped),
    ("proxies", .arr (s.proxies.map ProxyStatus.toJson))]

end BrowserGrid.Registry
