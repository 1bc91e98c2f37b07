import BrowserGrid.Proxy
/-!
# The slots of the registered proxies

`LiveProxies` holds the proxies that take sessions, by identity, each with what its slots hold.
`freeSlots` lists the slots that could take a session, by proxy and number; `firstFree` is the first
of them whose matcher accepts a request.  `occupy?` and `vacate` are the only changes to a slot.
-/

namespace BrowserGrid.Registry

variable {ω : Type}

/-- A slot of a registered proxy. -/
structure Slot where
  /-- What it offers. -/
  capabilities : Capabilities
  /-- The session on it. -/
  session : Option SessionKey := none
  deriving DecidableEq, Inhabited

/-- A registered proxy. -/
structure Entry (ω : Type) where
  /-- The proxy. -/
  proxy : Proxy ω
  /-- Its slots. -/
  slots : List Slot
  /-- How many sessions it has taken. -/
  served : Nat := 0

namespace Entry

/-- A proxy that has just been registered. -/
def fresh (p : Proxy ω) : Entry ω := { proxy := p, slots := p.slots.map ({ capabilities := · }) }

/-- Whether it takes sessions: a single-use proxy takes one. -/
def accepts (e : Entry ω) : Bool := !(e.proxy.singleUse && e.served > 0)

/-- Whether no slot holds a session. -/
def isIdle (e : Entry ω) : Bool := e.slots.all (·.session.isNone)

/-- The sessions on its slots. -/
def sessions (e : Entry ω) : List SessionKey := e.slots.filterMap (·.session)

/-- The entry with another session on a slot. -/
def setSlot (e : Entry ω) (index : Nat) (session : Option SessionKey) : Entry ω :=
  { e with slots := e.slots.modify index ({ · with session }) }

end Entry

/-- The registered proxies by identity. -/
abbrev LiveProxies (ω : Type) := KeyMap (Entry ω)

/-- A slot that could take a session. -/
structure FreeSlot (ω : Type) where
  /-- The slot. -/
  slot : SlotId
  /-- What it offers. -/
  offered : Capabilities
  /-- The matcher of its proxy. -/
  judge : (offered requested : Capabilities) → ω → Verdict × ω

/-- What the search for a slot finds. -/
inductive Search where
  /-- A slot, and what it offers. -/
  | found (slot : SlotId) (offered : Capabilities)
  /-- No slot takes the request. -/
  | nothing
  /-- A matcher broke. -/
  | broken
  deriving DecidableEq, Inhabited

namespace LiveProxies

/-- The slots of a proxy that could take a session, in their order. -/
def freeSlotsOf (id : ProxyId) (e : Entry ω) : List (FreeSlot ω) :=
  if e.accepts then
    e.slots.zipIdx.filterMap fun (slot, index) =>
      if slot.session.isNone then some ⟨⟨id, index⟩, slot.capabilities, e.proxy.judge⟩ else none
  else []

/-- The slots that could take a session, in the order of the proxies' identities. -/
def freeSlots (live : LiveProxies ω) : List (FreeSlot ω) :=
  live.entries.flatMap fun (id, e) => freeSlotsOf id e

/-- Ask one slot after the other until one takes the request. -/
def searchList (requested : Capabilities) : List (FreeSlot ω) → ω → Search × ω
  | [], memory => (.nothing, memory)
  | free :: rest, memory =>
    match free.judge free.offered requested memory with
    | (.accepted, memory) => (.found free.slot free.offered, memory)
    | (.refused, memory) => searchList requested rest memory
    | (.broken, memory) => (.broken, memory)

/-- The first free slot that takes the request. -/
def firstFree (live : LiveProxies ω) (requested : Capabilities) (memory : ω) : Search × ω :=
  searchList requested (freeSlots live) memory

/-- Ask one proxy after the other whether it could ever serve the request. -/
def anyServesList (requested : Capabilities) : List (Entry ω) → ω → Verdict × ω
  | [], memory => (.refused, memory)
  | e :: rest, memory =>
    match e.proxy.serves requested memory with
    | (.refused, memory) => anyServesList requested rest memory
    | answer => answer

/-- Whether some proxy could ever serve the request. -/
def anyServes (live : LiveProxies ω) (requested : Capabilities) (memory : ω) : Verdict × ω :=
  anyServesList requested live.values memory

/-- The slot at an address. -/
def slot? (live : LiveProxies ω) (slot : SlotId) : Option Slot := do
  (← live.get? slot.proxy).slots[slot.index]?

/-- The session on a slot. -/
def sessionIn? (live : LiveProxies ω) (slot : SlotId) : Option SessionKey := do
  (← slot? live slot).session

/-- Put a session on a free slot; nothing if the slot is gone or taken. -/
def occupy? (live : LiveProxies ω) (slot : SlotId) (key : SessionKey) :
    Option (LiveProxies ω) := do
  let e ← live.get? slot.proxy
  let s ← e.slots[slot.index]?
  if s.session.isSome then none
  else some (live.insert slot.proxy
    { e.setSlot slot.index (some key) with served := e.served + 1 })

/-- Free a slot if it still holds the session. -/
def vacate (live : LiveProxies ω) (slot : SlotId) (key : SessionKey) : LiveProxies ω :=
  match live.get? slot.proxy with
  | some e =>
    if (e.slots[slot.index]?).bind (·.session) = some key then
      live.insert slot.proxy (e.setSlot slot.index none)
    else live
  | none => live

/-- Remove a single-use proxy whose session is over. -/
def retire (live : LiveProxies ω) (id : ProxyId) : Option (Entry ω) × LiveProxies ω :=
  match live.get? id with
  | some e => if !e.accepts && e.isIdle then (some e, live.erase id) else (none, live)
  | none => (none, live)

end LiveProxies

end BrowserGrid.Registry
