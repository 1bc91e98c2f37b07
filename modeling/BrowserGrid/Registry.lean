import BrowserGrid.Registry.Error
import BrowserGrid.Registry.Slots
/-!
# The registry

The registry queues requests, binds them to the slots of its proxies and keeps the sessions.  One
lock guards it; each function here is one section under the lock and leaves the registry for the
next.  What a section tells its surroundings is in its result: sessions to hand to their callers,
proxies to tear down, requests to start nodes for.

`sweep` is one pass over the queue.  It visits the requests by descending priority and, among equal
ones, in the order of arrival, and gives each the first free slot that takes it.
-/

namespace BrowserGrid

/-- A request in the queue. -/
structure PendingRequest where
  /-- The request. -/
  request : Request
  /-- Whether a node is being started for it. -/
  provisioning : Bool := false
  deriving DecidableEq, Inhabited

/-- The registry. -/
structure Registry (ω : Type) where
  /-- The queue. -/
  pending : List PendingRequest := []
  /-- The registered proxies. -/
  live : Registry.LiveProxies ω := KeyMap.empty
  /-- The proxies whose registration is under way. -/
  registering : List ProxyId := []
  /-- The sessions in the order in which they were bound. -/
  active : List Session := []
  /-- The place in the order of arrival of the next request. -/
  nextSequence : Nat := 0
  /-- How many identifiers have been drawn. -/
  drawn : Nat := 0
  /-- Whether the registry has been stopped. -/
  stopped : Bool := false

namespace Registry

variable {ω : Type}

instance : Inhabited (Registry ω) := ⟨{}⟩

/-- What a registry is run with. -/
structure Setting (ω : Type) where
  /-- The identifiers that it draws, one after the other. -/
  identifiers : Nat → Uuid
  /-- The priority of a request. -/
  priority : Capabilities → Int := fun _ => 0
  /-- Whether a node could be started for a request. -/
  canProvision : Capabilities → ω → Bool := fun _ _ => false

/-! ### Looking at the registry -/

/-- The session of a key. -/
def session? (r : Registry ω) (key : SessionKey) : Option Session :=
  r.active.find? (·.key = key)

/-- The first session with a key of the client's protocol. -/
def byExternal? (r : Registry ω) (externalKey : String) : Option Session :=
  r.active.find? (·.externalKey == some externalKey)

/-- Whether a proxy is registered. -/
def contains (r : Registry ω) (id : ProxyId) : Bool := r.live.contains id

/-! ### Admission -/

/-- Whether a request could ever be served. -/
def servable (s : Setting ω) (r : Registry ω) (requested : Capabilities) (memory : ω) :
    Bool × ω :=
  let (verdict, memory) := LiveProxies.anyServes r.live requested memory
  (verdict = .accepted || (verdict = .refused && s.canProvision requested memory), memory)

/-- The request that is queued next. -/
def nextRequest (s : Setting ω) (r : Registry ω) (requested : Capabilities) : Request where
  id := ⟨s.identifiers r.drawn⟩
  capabilities := requested
  priority := s.priority requested
  sequence := r.nextSequence

/-- Queue a request. -/
def enqueue (r : Registry ω) (request : Request) : Registry ω :=
  { r with
    pending := r.pending ++ [{ request }]
    nextSequence := r.nextSequence + 1
    drawn := r.drawn + 1 }

/-- Admit a request for a session, unless nothing can ever serve it. -/
def submit (s : Setting ω) (r : Registry ω) (requested : Capabilities) (memory : ω) :
    Except RegistryError RequestId × Registry ω × ω :=
  if r.stopped then (.error .stopped, r, memory)
  else
    let (able, memory) := servable s r requested memory
    if able then
      let request := nextRequest s r requested
      (.ok request.id, r.enqueue request, memory)
    else (.error (.noMatchingProxy requested.text), r, memory)

/-- Withdraw a request from the queue, if it is still there. -/
def withdraw (r : Registry ω) (id : RequestId) : Bool × Registry ω :=
  let kept := r.pending.filter (·.request.id ≠ id)
  (kept.length ≠ r.pending.length, { r with pending := kept })

/-! ### The sweep -/

/-- What is known of the callers while a sweep runs. -/
structure Callers where
  /-- Whether the caller of a request is there when the sweep comes to the request. -/
  present : RequestId → Bool
  /-- Whether the caller of a request is there to take its session. -/
  receives : RequestId → Bool

/-- A sweep under way, and its result. -/
structure Sweep (ω : Type) where
  /-- The registered proxies. -/
  live : LiveProxies ω
  /-- The sessions. -/
  active : List Session
  /-- How many identifiers have been drawn. -/
  drawn : Nat
  /-- The memory of the matchers. -/
  memory : ω
  /-- The requests that stay in the queue. -/
  remaining : List PendingRequest := []
  /-- The sessions that requests were bound to. -/
  bound : List Session := []
  /-- Those of them that their callers took. -/
  delivered : List Session := []
  /-- Those of them whose callers were gone. -/
  undelivered : List SessionKey := []
  /-- The requests whose callers were gone. -/
  discarded : List RequestId := []
  /-- The requests for which a node is to be started. -/
  toProvision : List Request := []

namespace Sweep

/-- A request that finds no slot stays, and a node is started for it once. -/
def keep (s : Setting ω) (w : Sweep ω) (p : PendingRequest) : Sweep ω :=
  if !p.provisioning && s.canProvision p.request.capabilities w.memory then
    { w with
      remaining := w.remaining ++ [{ p with provisioning := true }]
      toProvision := w.toProvision ++ [p.request] }
  else { w with remaining := w.remaining ++ [p] }

/-- Hand a session to its caller. -/
def deliver (callers : Callers) (w : Sweep ω) (session : Session) : Sweep ω :=
  if callers.receives session.requestId then
    { w with delivered := w.delivered ++ [session] }
  else { w with undelivered := w.undelivered ++ [session.key] }

/-- Bind a request to a slot. -/
def bind (s : Setting ω) (callers : Callers) (w : Sweep ω) (p : PendingRequest) (slot : SlotId)
    (offered : Capabilities) : Sweep ω :=
  let session := Session.bind ⟨s.identifiers w.drawn⟩ p.request slot offered
  let w := { w with drawn := w.drawn + 1 }
  match LiveProxies.occupy? w.live slot session.key with
  | some live =>
    deliver callers
      { w with live, active := w.active ++ [session], bound := w.bound ++ [session] } session
  | none => { w with remaining := w.remaining ++ [p] }

/-- Visit one request; nothing if a matcher breaks, together with what the sweep has done. -/
def visit (s : Setting ω) (callers : Callers) (w : Sweep ω) (p : PendingRequest) :
    Except (Sweep ω) (Sweep ω) :=
  if !callers.present p.request.id then
    .ok { w with discarded := w.discarded ++ [p.request.id] }
  else
    match LiveProxies.firstFree w.live p.request.capabilities w.memory with
    | (.found slot offered, memory) => .ok (bind s callers { w with memory } p slot offered)
    | (.nothing, memory) => .ok (keep s { w with memory } p)
    | (.broken, memory) => .error { w with memory }

/-- Visit one request after the other; the second part lists those that a broken sweep loses. -/
def visitAll (s : Setting ω) (callers : Callers) :
    Sweep ω → List PendingRequest → Except (Sweep ω × List PendingRequest) (Sweep ω)
  | w, [] => .ok w
  | w, p :: rest =>
    match visit s callers w p with
    | .ok w => visitAll s callers w rest
    | .error w => .error (w, w.remaining ++ p :: rest)

end Sweep

/-- The order in which requests are served: by priority, then by arrival. -/
def before (a b : PendingRequest) : Bool :=
  a.request.priority > b.request.priority ||
    (a.request.priority == b.request.priority && a.request.sequence ≤ b.request.sequence)

/-- What one pass over the queue leaves to be done. -/
structure SweepResult (ω : Type) where
  /-- The registry after the pass. -/
  registry : Registry ω
  /-- The memory of the matchers. -/
  memory : ω
  /-- The sessions that requests were bound to. -/
  bound : List Session := []
  /-- Those of them that their callers took. -/
  delivered : List Session := []
  /-- The requests that are gone because their callers were. -/
  discarded : List RequestId := []
  /-- The requests that are gone because the pass was broken off. -/
  lost : List RequestId := []
  /-- The sessions to release because their callers were gone. -/
  undelivered : List SessionKey := []
  /-- The requests for which a node is to be started. -/
  toProvision : List Request := []
  /-- Whether a matcher broke. -/
  broken : Bool := false

/-- One pass over the queue.  When a matcher breaks, what has been bound stays bound and the rest
of the queue is lost. -/
def sweep (s : Setting ω) (callers : Callers) (r : Registry ω) (memory : ω) : SweepResult ω :=
  if r.stopped then { registry := r, memory }
  else
    let start : Sweep ω := { live := r.live, active := r.active, drawn := r.drawn, memory }
    match start.visitAll s callers (r.pending.mergeSort before) with
    | .ok w =>
      { registry := { r with
          pending := w.remaining, live := w.live, active := w.active, drawn := w.drawn }
        memory := w.memory
        bound := w.bound
        delivered := w.delivered
        discarded := w.discarded
        undelivered := w.undelivered
        toProvision := w.toProvision }
    | .error (w, lost) =>
      { registry := { r with
          pending := [], live := w.live, active := w.active, drawn := w.drawn }
        memory := w.memory
        bound := w.bound
        delivered := w.delivered
        discarded := w.discarded
        lost := lost.map (·.request.id)
        broken := true }

/-- Starting a node has failed: a later sweep may try again. -/
def provisioningFailed (r : Registry ω) (id : RequestId) : Registry ω :=
  { r with
    pending := r.pending.map fun p =>
      if p.request.id = id then { p with provisioning := false } else p }

/-! ### Sessions -/

/-- Note the key that the client's protocol gave a session. -/
def activate (r : Registry ω) (key : SessionKey) (externalKey : String) :
    Except RegistryError Session × Registry ω :=
  match r.session? key with
  | none => (.error (.unknownSession key), r)
  | some session =>
    let session := session.activate externalKey
    (.ok session,
      { r with active := r.active.map fun other => if other.key = key then session else other })

/-- A released session, and the spent proxy that goes with it. -/
structure Released (ω : Type) where
  /-- The session at its end. -/
  session : Session
  /-- The single-use proxy that it leaves behind. -/
  retired : Option (Proxy ω)

/-- Remove a session from the sessions. -/
def forget (active : List Session) (key : SessionKey) : List Session :=
  active.filter (·.key ≠ key)

/-- End a session and free its slot; a single-use proxy goes with it. -/
def release (r : Registry ω) (key : SessionKey) (reason : Termination) :
    Option (Released ω) × Registry ω :=
  match r.session? key with
  | none => (none, r)
  | some session =>
    let live := LiveProxies.vacate r.live session.slot key
    let (retired, live) := LiveProxies.retire live session.slot.proxy
    (some ⟨session.finish reason, retired.map (·.proxy)⟩,
      { r with live, active := forget r.active key })

/-- The session on a slot. -/
def sessionIn? (r : Registry ω) (slot : SlotId) : Option SessionKey :=
  LiveProxies.sessionIn? r.live slot

/-! ### Proxies -/

/-- A proxy that is registered no more. -/
structure Removed (ω : Type) where
  /-- The proxy. -/
  proxy : Proxy ω
  /-- The sessions that ended with it. -/
  ended : List Session

/-- Remove a proxy and end its sessions. -/
def removeProxy (r : Registry ω) (id : ProxyId) (reason : Termination) :
    Option (Removed ω) × Registry ω :=
  match r.live.get? id with
  | none => (none, r)
  | some e =>
    (some ⟨e.proxy, e.sessions.filterMap fun key => (r.session? key).map (·.finish reason)⟩,
      { r with live := r.live.erase id, active := e.sessions.foldl forget r.active })

/-- The first section of a registration. -/
inductive Staging (ω : Type) where
  /-- The registry refuses. -/
  | refused (error : RegistryError)
  /-- The identity is taken for the new proxy; a registered one with it has been removed. -/
  | staged (stale : Option (Removed ω))

/-- Begin to register a proxy: take its identity and remove the proxy that has it. -/
def stage (r : Registry ω) (id : ProxyId) : Staging ω × Registry ω :=
  if r.stopped then (.refused .stopped, r)
  else if id ∈ r.registering then (.refused (.alreadyRegistering id), r)
  else
    let (stale, r) := { r with registering := id :: r.registering }.removeProxy id .reregistration
    (.staged stale, r)

/-- How a registration ends. -/
inductive Promotion where
  /-- The proxy's own preparation failed. -/
  | unprepared
  /-- The registry was stopped in the meantime. -/
  | late
  /-- The proxy is registered. -/
  | live
  deriving DecidableEq, Inhabited

/-- End the registration of a proxy that has prepared itself, or failed to. -/
def promote (r : Registry ω) (p : Proxy ω) (prepared : Bool) : Promotion × Registry ω :=
  let r := { r with registering := r.registering.filter (· ≠ p.id) }
  if !prepared then (.unprepared, r)
  else if r.stopped then (.late, r)
  else (.live, { r with live := r.live.insert p.id (.fresh p) })

/-! ### The end -/

/-- What stopping the registry leaves to be done. -/
structure Stopped (ω : Type) where
  /-- The requests that were still queued. -/
  cancelled : List RequestId
  /-- The sessions that ended. -/
  ended : List Session
  /-- The proxies to tear down. -/
  proxies : List (Proxy ω)

/-- Stop the registry: nothing is queued, bound or registered any more. -/
def stop (r : Registry ω) : Option (Stopped ω) × Registry ω :=
  if r.stopped then (none, r)
  else
    (some ⟨r.pending.map (·.request.id), r.active.map (·.finish .registryStopped),
        r.live.values.map (·.proxy)⟩,
      { r with stopped := true, pending := [], active := [], registering := [],
               live := KeyMap.empty })

end Registry

end BrowserGrid
