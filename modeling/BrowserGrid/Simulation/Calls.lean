import BrowserGrid.Simulation.World
/-!
# Jobs of the registry

The calls of the registry, which wait for the chores of proxies, the callers that wait for sessions,
the loop that sweeps whenever the bell rings, and the tasks that start nodes.
-/

namespace BrowserGrid.Simulation.Sim

open Registry

/-! ### Chores -/

/-- Begin to tear a proxy down; what is left to wait for. -/
def beginTeardown (p : SimProxy) : Sim (List Chore) := do
  match (← get).conduct p with
  | .scripted _ _ 0 => note (.teardown p.id); return []
  | .scripted _ _ ms => return [⟨(← get).now + ms, p⟩]
  | .node pod =>
    let _ ← program (Cluster.Client.stopContainer pod).run
    return []
  | .provider _ => return []

/-- A proxy begins to prepare itself; what is left to wait for, and whether it will succeed. -/
def beginPreparation (p : SimProxy) : Sim (List Chore × Bool) := do
  match (← get).conduct p with
  | .scripted 0 fails _ => note (.hook p.id); return ([], !fails)
  | .scripted ms fails _ =>
    note (.hook p.id)
    return ([⟨(← get).now + ms, p⟩], !fails)
  | .node _ | .provider none => return ([], true)
  | .provider (some _) =>
    return ([⟨(← get).now + (statusAttempts - 1) * statusBackoff, p⟩], false)

/-- Begin to tear proxies down, one after the other. -/
def beginTeardowns : List SimProxy → Sim (List Chore)
  | [] => return []
  | p :: rest => return (← beginTeardown p) ++ (← beginTeardowns rest)

/-- Begin what a call waits for; also how a proxy will have prepared itself. -/
def beginChores (call : Registry.Call Memory) : Sim (List Chore × Bool) := do
  match call.preparation? with
  | some p => beginPreparation p
  | none => return (← beginTeardowns call.teardowns, true)

/-- Note the end of a chore. -/
def endChore (call : Registry.Call Memory) (chore : Chore) : Sim Unit := do
  if call.preparation?.isNone then note (.teardown chore.proxy.id)

/-! ### Calls -/

/-- What an answer of the registry comes to. -/
def conclude (sequel : Sequel) : Registry.Answer → Sim Poll
  | .added live =>
    match sequel with
    | .registered proxy registration =>
      return .done (.response (Api.Response.registered proxy registration live))
    | _ => return .done (.flag live)
  | .removed there => return .done (.flag there)
  | .released session => return .done (.session session)
  | .swept toProvision => do
    for request in toProvision do
      let _ ← spawn (.provision request)
    return .done .nothing
  | .broken => return .done .broken
  | .stopped => return .done .nothing

/-- Go on after a section, as far as nothing has to be waited for. -/
def follow (self : TaskId) (sequel : Sequel) : (fuel : Nat) → Registry.Turn Memory → Sim Poll
  | 0, _ => return .done .nothing
  | fuel + 1, turn => do
    modify fun w => { w with registry := turn.registry, memory := turn.memory }
    spread turn.news
    match turn.next with
    | .answers answer => conclude sequel answer
    | .waits call =>
      match ← beginChores call with
      | ([], prepared) =>
        let w ← get
        follow self sequel fuel (call.resume w.registry w.memory prepared)
      | (chores, prepared) =>
        for chore in chores do
          setAlarm self chore.due
        return .waits (.call call chores prepared sequel) []

/-- The sections that are left for a call at most. -/
def sectionsLeft : Registry.Call Memory → Nat
  | .returning keys _ | .retiring _ keys _ => 2 * keys.length + 2
  | _ => 4

/-- Go on after a section with enough fuel for the sections that may follow. -/
def proceed (self : TaskId) (sequel : Sequel) (turn : Registry.Turn Memory) : Sim Poll :=
  let fuel := match turn.next with
    | .waits call => sectionsLeft call
    | .answers _ => 0
  follow self sequel (fuel + 1) turn

/-- Poll a call of the registry that waits for chores. -/
def pollCall (self : TaskId) (call : Registry.Call Memory) (chores : List Chore)
    (prepared : Bool) (sequel : Sequel) : Sim Poll := do
  let now := (← get).now
  let (due, left) := chores.partition (·.due ≤ now)
  for chore in due do
    endChore call chore
  if left.isEmpty then
    let w ← get
    proceed self sequel (call.resume w.registry w.memory prepared)
  else return .waits (.call call left prepared sequel) []

/-- The loop ends with the registry. -/
def endLoop : Sim Unit := do
  match (← get).loop with
  | none => return ()
  | some task =>
    clearAlarms task
    modify fun w => { w with
      loop := none
      tasks := w.tasks.filter (·.id ≠ task)
      ready := w.ready.filter (· ≠ task)
      bell := w.bell.leave }

/-- Start an operation of the registry. -/
def operate (self : TaskId) (op : Registry.Operation Memory) (sequel : Sequel) : Sim Poll := do
  let w ← get
  if let .stop := op then
    if !w.registry.stopped then endLoop
  let w ← get
  proceed self sequel (op.start w.setting (callersOf w.mailboxes) w.registry w.memory)

/-! ### Requests and their callers -/

/-- Whether a matcher is going to break while a request is admitted. -/
def breaksAdmission (requested : Capabilities) : Sim Bool := do
  let w ← get
  return !w.registry.stopped &&
    (LiveProxies.anyServes w.registry.live requested w.memory).1 = .broken

/-- Admit a request; its caller gets a handle. -/
def takeIn (requested : Capabilities) : Sim (Except RegistryError RequestId) := do
  let w ← get
  let (result, registry, memory) := w.registry.submit w.setting requested w.memory
  set { w with registry, memory }
  if let .ok id := result then
    modify fun w => { w with mailboxes := w.mailboxes ++ [{ request := id }] }
    ring
  return result

/-- A wait is over. -/
def endWait (request : RequestId) (sequel : Sequel) (result : Except RegistryError Session) :
    Sim Poll := do
  letGo request
  match sequel with
  | .remember name =>
    if let .ok session := result then remember name session.key
    return .done (.awaited result)
  | .created name =>
    if let (.ok session, some name) := (result, name) then remember name session.key
    return .done (.response (Api.Response.created result))
  | _ => return .done (.awaited result)

/-- Poll a caller that waits for a session.  A reply counts even when the time is over. -/
def pollWait (request : RequestId) (timeout : Duration) (until_ : Nat) (sequel : Sequel) :
    Sim Poll := do
  let w ← get
  match (replyTo w.mailboxes request).outcome? with
  | some result => endWait request sequel result
  | none =>
    if w.now < until_ then return .waits (.wait request timeout until_ sequel) [.reply request]
    else
      let (result, registry) := expire w.registry w.mailboxes request timeout
      set { w with registry }
      match result with
      | some result => endWait request sequel result
      | none => return .waits (.wait request timeout until_ sequel) [.reply request]

/-- The milliseconds of a duration. -/
def milliseconds (d : Duration) : Nat := (d.nanos + 999999) / 1000000

/-- Begin to wait for a session. -/
def beginWait (self : TaskId) (request : RequestId) (timeout : Duration) (sequel : Sequel) :
    Sim Poll := do
  let until_ := (← get).now + milliseconds timeout
  match ← pollWait request timeout until_ sequel with
  | .waits job signals => setAlarm self until_; return .waits job signals
  | outcome => return outcome

/-! ### The loop -/

/-- The loop sweeps, unless the registry is stopped. -/
def startSweep : Sim Poll := do
  if (← get).registry.stopped then return .done .nothing
  else
    let task ← spawn (.operation .sweep .outcome)
    return .waits (.loop (.sweeping task)) [.finished task]

/-- The loop listens to the bell; a stored ring counts. -/
def listen (self : TaskId) : Sim Poll := do
  let w ← get
  let (heard, bell) := w.bell.listen
  set { w with bell }
  if heard then startSweep
  else
    let until_ := w.now + w.setup.pollMs
    setAlarm self until_
    return .waits (.loop (.parked until_)) [.bell]

/-- Whether a task has ended. -/
def isOver (task : TaskId) : Sim Bool := return (← get).outcomes.any (·.1 = task)

/-- Take over what a task has brought about. -/
def takeOutcome (task : TaskId) : Sim (Option Outcome) :=
  modifyGet fun w =>
    ((w.outcomes.find? (·.1 = task)).map (·.2),
      { w with outcomes := w.outcomes.filter (·.1 ≠ task) })

/-- Poll the loop. -/
def pollLoop (self : TaskId) : LoopPhase → Sim Poll
  | .start => startSweep
  | .sweeping task => do
    match ← takeOutcome task with
    | some _ => listen self
    | none => return .waits (.loop (.sweeping task)) [.finished task]
  | .parked until_ => do
    let w ← get
    let (goesOn, bell) := w.bell.hear (until_ ≤ w.now)
    set { w with bell }
    if w.bell.rung then clearAlarms self
    if goesOn then startSweep
    else return .waits (.loop (.parked until_)) [.bell]

/-- Start the loop, unless it has been started. -/
def startLoop : Sim Unit := do
  if (← get).loop.isNone then
    let task ← spawn (.loop .start)
    modify ({ · with loop := some task })

/-! ### Starting nodes -/

/-- A later sweep may start a node for the request again. -/
def provisioningFailed (request : Request) : Sim Unit :=
  modify fun w => { w with registry := w.registry.provisioningFailed request.id }

/-- A scripted node is delivered, or is one of those that fail. -/
def endProvisioning (request : Request) (failures : Nat) : Sim Poll := do
  let tried := (← get).nodesTried + 1
  modify ({ · with nodesTried := tried })
  if tried ≤ failures then provisioningFailed request
  return .done .nothing

/-- Start a node for a request. -/
def provision (self : TaskId) (request : Request) : Sim Poll := do
  let w ← get
  match w.setup.provisioning with
  | .none => return .done .nothing
  | .pods p =>
    let label ← drawLabel
    let started ← program (p.provision w.setup.client w.setup.defaults label
      w.clientMemory.sharedFolder request)
    if !started then provisioningFailed request
    return .done .nothing
  | .scripted _ failures 0 =>
    note (.provision request)
    endProvisioning request failures
  | .scripted _ _ delay =>
    note (.provision request)
    setAlarm self (w.now + delay)
    return .waits (.provisioning request (w.now + delay)) []

/-- Poll a task that waits for a scripted node. -/
def pollProvisioning (request : Request) (until_ : Nat) : Sim Poll := do
  let w ← get
  if w.now < until_ then return .waits (.provisioning request until_) []
  else
    match w.setup.provisioning with
    | .scripted _ failures _ => endProvisioning request failures
    | _ => return .done .nothing

end BrowserGrid.Simulation.Sim
