import BrowserGrid.Registry
/-!
# Calls of the registry in flight

Some operations of the registry take several sections, and between them they wait: for a proxy to
prepare itself, for a proxy to be torn down, or just for the lock.  A `Call` is such an operation at
the point where it waits.  `Operation.start` runs the first section, `Call.resume` the one after a
wait; a `Turn` is what a section leaves: the registry, the news for its surroundings (`News`) and
either the next wait or the answer.  Between two turns of a call any other section may run.
-/

namespace BrowserGrid.Registry

variable {ω : Type}

/-- An operation that may have to wait. -/
inductive Operation (ω : Type) where
  /-- Register a proxy. -/
  | add (p : Proxy ω)
  /-- Unregister a proxy. -/
  | remove (id : ProxyId)
  /-- End a session. -/
  | release (key : SessionKey) (reason : Termination)
  /-- End whatever session is on a slot. -/
  | forceRelease (slot : SlotId) (reason : Termination)
  /-- Make one pass over the queue. -/
  | sweep
  /-- Stop the registry. -/
  | stop

/-- An operation at the point where it waits. -/
inductive Call (ω : Type) where
  /-- A registration waits for the teardown of the proxy that it replaces. -/
  | clearing (stale new : Proxy ω)
  /-- A registration waits for the proxy to prepare itself. -/
  | preparing (new : Proxy ω)
  /-- A registration that came too late waits for the teardown of its proxy. -/
  | discarding (new : Proxy ω)
  /-- A removal waits for the teardown of the proxy. -/
  | removing (old : Proxy ω)
  /-- A release waits for the teardown of the spent proxy. -/
  | releasing (session : Session) (spent : Proxy ω)
  /-- The release of a slot knows its session and waits for the lock. -/
  | forcing (key : SessionKey) (reason : Termination)
  /-- A sweep has sessions to release and waits for the lock. -/
  | returning (keys : List SessionKey) (toProvision : List Request)
  /-- A sweep waits for the teardown of a spent proxy, with more sessions to release. -/
  | retiring (spent : Proxy ω) (keys : List SessionKey) (toProvision : List Request)
  /-- The end of the registry waits for the teardown of its proxies. -/
  | stopping (proxies : List (Proxy ω))

/-- What an operation answers. -/
inductive Answer where
  /-- Whether the proxy is registered. -/
  | added (live : Bool)
  /-- Whether there was such a proxy. -/
  | removed (there : Bool)
  /-- The session that ended. -/
  | released (session : Option Session)
  /-- The sweep is over, and nodes are to be started for these requests. -/
  | swept (toProvision : List Request)
  /-- The sweep was cut short by a matcher that broke. -/
  | broken
  /-- The registry is stopped. -/
  | stopped
  deriving DecidableEq, Inhabited

/-- Why a request is gone without a session. -/
inductive Discard where
  /-- Its caller was gone. -/
  | callerGone
  /-- The pass over the queue was broken off by a matcher. -/
  | sweepBroken
  /-- The registry was stopped. -/
  | registryStopped
  deriving DecidableEq, Inhabited

/-- What a section tells its surroundings. -/
inductive News where
  /-- Something has changed that may let a request be served. -/
  | changed
  /-- A request was bound to a slot. -/
  | bound (session : Session)
  /-- A session for the caller of its request. -/
  | delivered (session : Session)
  /-- The caller of a request will get no session. -/
  | dropped (id : RequestId) (why : Discard)
  /-- A session is over. -/
  | ended (session : Session)
  deriving DecidableEq, Inhabited

/-- What follows a section. -/
inductive Next (ω : Type) where
  /-- The operation waits. -/
  | waits (call : Call ω)
  /-- The operation is over. -/
  | answers (answer : Answer)

/-- What a section leaves. -/
structure Turn (ω : Type) where
  /-- The registry. -/
  registry : Registry ω
  /-- The memory of the matchers. -/
  memory : ω
  /-- The news, in their order. -/
  news : List News := []
  /-- What follows. -/
  next : Next ω

/-- Whether a new proxy stands for the same resource as the one that it replaces. -/
def keepsBacking (stale new : Proxy ω) : Bool :=
  stale.backing.isSome && new.backing == stale.backing

/-- The section that releases a session, and what follows it. -/
def releaseTurn (r : Registry ω) (memory : ω) (key : SessionKey) (reason : Termination)
    (spent : Session → Proxy ω → Call ω) (after : Option Session → Next ω) : Turn ω :=
  match r.release key reason with
  | (none, r) => { registry := r, memory, next := after none }
  | (some ⟨session, none⟩, r) =>
    { registry := r, memory, news := [.ended session, .changed], next := after (some session) }
  | (some ⟨session, some p⟩, r) =>
    { registry := r, memory, news := [.ended session, .changed]
      next := .waits (spent session p) }

/-- What a sweep does when some of its sessions are still to be released. -/
def afterReturn (keys : List SessionKey) (toProvision : List Request) : Next ω :=
  if keys.isEmpty then .answers (.swept toProvision) else .waits (.returning keys toProvision)

/-- Run the first section of an operation. -/
def Operation.start (s : Setting ω) (callers : Callers) (r : Registry ω) (memory : ω) :
    Operation ω → Turn ω
  | .add p =>
    match r.stage p.id with
    | (.refused _, r) => { registry := r, memory, next := .answers (.added false) }
    | (.staged none, r) => { registry := r, memory, next := .waits (.preparing p) }
    | (.staged (some stale), r) =>
      { registry := r, memory, news := stale.ended.map .ended ++ [.changed]
        next := .waits
          (if keepsBacking stale.proxy p then .preparing p else .clearing stale.proxy p) }
  | .remove id =>
    match r.removeProxy id .proxyRemoved with
    | (none, r) => { registry := r, memory, next := .answers (.removed false) }
    | (some old, r) =>
      { registry := r, memory, news := old.ended.map .ended ++ [.changed]
        next := .waits (.removing old.proxy) }
  | .release key reason =>
    releaseTurn r memory key reason .releasing (fun session => .answers (.released session))
  | .forceRelease slot reason =>
    match r.sessionIn? slot with
    | none => { registry := r, memory, next := .answers (.released none) }
    | some key => { registry := r, memory, next := .waits (.forcing key reason) }
  | .sweep =>
    let result := r.sweep s callers memory
    { registry := result.registry
      memory := result.memory
      news := result.bound.map .bound ++ result.delivered.map .delivered ++
        result.discarded.map (.dropped · .callerGone) ++ result.lost.map (.dropped · .sweepBroken)
      next :=
        if result.broken then .answers .broken
        else afterReturn result.undelivered result.toProvision }
  | .stop =>
    match r.stop with
    | (none, r) => { registry := r, memory, next := .answers .stopped }
    | (some stopped, r) =>
      { registry := r, memory
        news := stopped.cancelled.map (.dropped · .registryStopped) ++ stopped.ended.map .ended
        next := .waits (.stopping stopped.proxies) }

/-- Run the section after a wait; `prepared` is whether the proxy that was waited for is ready. -/
def Call.resume (r : Registry ω) (memory : ω) (prepared : Bool) : Call ω → Turn ω
  | .clearing _ new => { registry := r, memory, next := .waits (.preparing new) }
  | .preparing new =>
    match r.promote new prepared with
    | (.unprepared, r) => { registry := r, memory, next := .answers (.added false) }
    | (.late, r) => { registry := r, memory, next := .waits (.discarding new) }
    | (.live, r) =>
      { registry := r, memory, news := [.changed], next := .answers (.added true) }
  | .discarding _ => { registry := r, memory, next := .answers (.added false) }
  | .removing _ => { registry := r, memory, next := .answers (.removed true) }
  | .releasing session _ => { registry := r, memory, next := .answers (.released (some session)) }
  | .forcing key reason =>
    releaseTurn r memory key reason .releasing (fun session => .answers (.released session))
  | .returning [] toProvision => { registry := r, memory, next := .answers (.swept toProvision) }
  | .returning (key :: keys) toProvision =>
    releaseTurn r memory key .clientGone (fun _ p => .retiring p keys toProvision)
      (fun _ => afterReturn keys toProvision)
  | .retiring _ keys toProvision => { registry := r, memory, next := afterReturn keys toProvision }
  | .stopping _ => { registry := r, memory, next := .answers .stopped }

/-- The proxies whose teardown a call waits for. -/
def Call.teardowns : Call ω → List (Proxy ω)
  | .clearing stale _ => [stale]
  | .discarding new => [new]
  | .removing old => [old]
  | .releasing _ spent => [spent]
  | .retiring spent _ _ => [spent]
  | .stopping proxies => proxies
  | .preparing _ | .forcing .. | .returning .. => []

/-- The proxy that a call waits for to prepare itself. -/
def Call.preparation? : Call ω → Option (Proxy ω)
  | .preparing new => some new
  | _ => none

end BrowserGrid.Registry
