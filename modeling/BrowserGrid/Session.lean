import BrowserGrid.Capability
import BrowserGrid.Session.Termination
import BrowserGrid.Uuid
/-!
# Sessions

A `Request` waits for a slot; bound to one it becomes a `Session`, which is `bound`, then `active`
once its client's protocol has given it a key of its own, and at last `released` with the reason
that it ended for.
-/

namespace BrowserGrid

/-- The identity of a proxy, normally its host and port. -/
abbrev ProxyId := String

/-- The identity of a queued request. -/
structure RequestId where
  /-- The identifier. -/
  uuid : Uuid
  deriving DecidableEq, Inhabited

/-- The key that the registry gives a session. -/
structure SessionKey where
  /-- The identifier. -/
  uuid : Uuid
  deriving DecidableEq, Inhabited

/-- The text of a key. -/
def SessionKey.text (k : SessionKey) : String := k.uuid.text

/-- The key that a text writes. -/
def SessionKey.parse? (s : String) : Option SessionKey := (Uuid.parse? s).map (⟨·⟩)

/-- The address of a slot. -/
structure SlotId where
  /-- The proxy. -/
  proxy : ProxyId
  /-- The number of the slot. -/
  index : Nat
  deriving DecidableEq, Inhabited

/-- The text of an address. -/
def SlotId.text (s : SlotId) : String := s.proxy ++ "#" ++ toString s.index

/-- How far a request and the session that it turns into have come. -/
inductive SessionState where
  /-- It waits in the queue. -/
  | queued
  /-- It has a slot. -/
  | bound
  /-- The client's protocol has given it a key. -/
  | active
  /-- It is being released. -/
  | terminating
  /-- Its slot is free again. -/
  | released
  deriving DecidableEq, Inhabited

namespace SessionState

/-- The name of a state. -/
def name : SessionState → String
  | queued => "queued"
  | bound => "bound"
  | active => "active"
  | terminating => "terminating"
  | released => "released"

/-- The state of a name. -/
def ofName? (name : String) : Option SessionState :=
  [queued, bound, active, terminating, released].find? (·.name = name)

/-- Read a state from its name, or from an object whose only member has that name. -/
def ofJson? : Json → Option SessionState
  | .str name => ofName? name
  | .obj [(name, .null)] => ofName? name
  | _ => none

end SessionState

/-- A request for a session. -/
structure Request where
  /-- The identity. -/
  id : RequestId
  /-- What is asked for. -/
  capabilities : Capabilities
  /-- A request with a higher priority is served first. -/
  priority : Int
  /-- The place in the order of arrival. -/
  sequence : Nat
  deriving DecidableEq, Inhabited

/-- A request that has been bound to a slot. -/
structure Session where
  /-- The registry's key. -/
  key : SessionKey
  /-- The key that the client's protocol gave it. -/
  externalKey : Option String := none
  /-- The request. -/
  requestId : RequestId
  /-- What was asked for. -/
  requested : Capabilities
  /-- The slot. -/
  slot : SlotId
  /-- What the slot offers. -/
  offered : Capabilities
  /-- How far it has come. -/
  state : SessionState := .bound
  /-- Why it ended. -/
  termination : Option Termination := none
  deriving DecidableEq, Inhabited

namespace Session

/-- The session of a request that gets a slot. -/
def bind (key : SessionKey) (request : Request) (slot : SlotId) (offered : Capabilities) :
    Session where
  key
  requestId := request.id
  requested := request.capabilities
  slot
  offered

/-- The session at its end. -/
def finish (s : Session) (reason : Termination) : Session :=
  { s with state := .released, termination := some reason }

/-- The session with the key that the client's protocol gave it. -/
def activate (s : Session) (externalKey : String) : Session :=
  { s with state := .active, externalKey := some externalKey }

/-- The JSON form. -/
def toJson (s : Session) : Json :=
  .obj [("key", .str s.key.text), ("external_key", .ofText? s.externalKey),
    ("request_id", .str s.requestId.uuid.text), ("requested", s.requested.toJson),
    ("slot", .obj [("proxy", .str s.slot.proxy), ("index", .nat s.slot.index)]),
    ("offered", s.offered.toJson), ("state", .str s.state.name),
    ("termination", .ofOption Termination.toJson s.termination)]

end Session

end BrowserGrid
