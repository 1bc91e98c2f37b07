import BrowserGrid.Simulation.Calls
import BrowserGrid.Simulation.Commands
/-!
# Things to do with the hub

`startAction` does what an `Action` says, or begins to: an action that has to wait goes on as the
job that waits for it.
-/

namespace BrowserGrid.Simulation.Sim

open Registry

/-! ### Proxies -/

/-- Let a proxy be one more instance that does something. -/
def enlist (conduct : Conduct) : Sim Nat :=
  modifyGet fun w =>
    let serial := w.proxiesMade + 1
    (serial, { w with proxiesMade := serial, conducts := (serial, conduct) :: w.conducts })

/-- The judgement of a matcher of the hub. -/
def judgeBy (m : Matcher) (offered requested : Capabilities) (memory : Memory) :
    Verdict × Memory :=
  let (verdict, versions) := Proxy.judgeBy m offered requested memory.versions
  (verdict, memory.withVersions versions)

/-- The judgement of a matcher that breaks at a call. -/
def judgeUntil (serial call : Nat) (offered requested : Capabilities) (memory : Memory) :
    Verdict × Memory :=
  let (asked, memory) := memory.ask serial
  if asked = call then (.broken, memory) else judgeBy .standard offered requested memory

/-- The judgement of the matcher of a script. -/
def MatcherScript.judge (m : MatcherScript) (serial : Nat) (defaults : FleetDefaults) :
    (offered requested : Capabilities) → Memory → Verdict × Memory :=
  match m with
  | .plain => judgeBy .standard
  | .fleet => judgeBy (.fleet defaults)
  | .cloud => judgeBy .cloud
  | .breaking call => judgeUntil serial call

/-- The proxy of a node. -/
def nodeProxy (id : ProxyId) (registration : NodeRegistration) (announced : List Capabilities) :
    Sim SimProxy := do
  let serial ← enlist (.node registration.containerId)
  return (Proxy.node serial id registration announced (← get).setup.defaults).within
    Memory.versions Memory.withVersions

/-- The proxy that a script describes; nothing if a node has no address. -/
def makeProxy? : ProxyScript → Sim (Option SimProxy)
  | .scripted id kind slots singleUse backing matcher conduct => do
    let serial ← enlist conduct
    let judge := MatcherScript.judge matcher serial (← get).setup.defaults
    return some { serial, id, kind, slots, singleUse, backing, judge }
  | .node remote registration announced => do
    match Endpoint.authority? remote with
    | some id => return some (← nodeProxy id registration announced)
    | none => return none
  | .provider p => do
    let serial ← enlist (.provider p.statusUrl)
    return some ((Proxy.provider serial p).within Memory.versions Memory.withVersions)

/-! ### Requests of clients -/

/-- Do what a client asks for. -/
def serve (self : TaskId) (name : Option String) : Api.Command → Sim Poll
  | .health => return .done (.response Api.Response.health)
  | .status => do
    let w ← get
    return .done (.response (Api.Response.hubStatus w.registry.status w.memory.versions))
  | .register remoteHost nodeName slots => do
    match Endpoint.authority? remoteHost with
    | none => return .done (.response Api.Response.unreachableNode)
    | some id =>
      let client := (← get).setup.client
      match ← program (client.registerNode (nodeName.getD id) remoteHost).run with
      | .error e => return .done (.response (Api.Error.ofCluster e).response)
      | .ok registration =>
        let p ← nodeProxy id registration slots
        operate self (.add p) (.registered id registration)
  | .newSession requested timeoutSecs => do
    let breaks ← breaksAdmission requested
    match ← takeIn requested with
    | .error e =>
      return .done (if breaks then .broken else .response (Api.Response.created (.error e)))
    | .ok id =>
      let usual := Duration.ofMillis (← get).setup.waitMs
      beginWait self id ((timeoutSecs.map Duration.ofSecs).getD usual) (.created name)
  | .session key => do
    return .done (.response (Api.Response.session key ((← get).registry.session? key)))
  | .activate key externalKey => do
    let w ← get
    let (result, registry) := w.registry.activate key externalKey
    set { w with registry }
    return .done (.response (Api.Response.activated result))
  | .delete key => do
    if ((← get).registry.session? key).isNone then
      return .done (.response (Api.Response.noSession key))
    else
      let _ ← spawn (.operation (.release key .clientStopped) .outcome)
      return .done (.response Api.Response.accepted)

/-- Answer a request of a client. -/
def request (self : TaskId) (r : Api.Request) (name : Option String) : Sim Poll := do
  match r.command with
  | .error response => return .done (.response (r.finish response))
  | .ok command =>
    match ← serve self name command with
    | .done (.response response) => return .done (.response (r.finish response))
    | poll => return poll

/-! ### The cluster -/

/-- Run a program of the hub that may change what the hub remembers of its cluster. -/
def clientProgram
    (p : Cluster.Client → Cluster.Client.Memory → Cluster.Program Cluster.Client.Memory) :
    Sim Poll := do
  let w ← get
  let clientMemory ← program (p w.setup.client w.clientMemory)
  modify ({ · with clientMemory })
  return .done .nothing

/-- Begin to read a folder of a pod. -/
def copyFiles (pod folder : String) : Sim Poll := do
  let id ← execute pod ["tar", "-C", folder, "-c", "."] { closeOnStderr := true }
  pollOpen id .copying

/-- Begin to run a command in a pod. -/
def runCommand (pod : String) (command : List String) (wait : Bool) : Sim Poll := do
  let id ← execute pod command { captureStdout := true }
  if wait then pollOpen id (.finishing true)
  else
    let _ ← spawn (.open_ id (.finishing false))
    return .done (.execution (.ok .created))

/-! ### Actions -/

/-- The proxies as they are listed. -/
def listProxies (w : World) : Outcome :=
  .proxies (w.registry.live.values.map fun e =>
    (e.proxy.id, e.proxy.kind, e.proxy.singleUse, e.proxy.backing))

/-- Ask a proxy whether it could ever serve a request. -/
def askProxy (id : ProxyId) (requested : Capabilities) : Sim Poll := do
  let w ← get
  match w.registry.live.get? id with
  | none => return .done (.maybe none)
  | some e =>
    let (verdict, memory) := e.proxy.serves requested w.memory
    set { w with memory }
    return .done (if verdict = .broken then .broken else .maybe (some (verdict = .accepted)))

/-- Look at the world. -/
def look (f : World → Outcome) : Sim Poll := return .done (f (← get))

/-- Do what an action says, or begin to. -/
def startAction (self : TaskId) : Action → Sim Poll
  | .add script => do
    match ← makeProxy? script with
    | some p => operate self (.add p) .outcome
    | none => return .done .nothing
  | .remove id => operate self (.remove id) .outcome
  | .contains id => look fun w => .flag (w.registry.contains id)
  | .proxies => look listProxies
  | .serves id requested => askProxy id requested
  | .wait name id timeout => beginWait self id timeout (.remember name)
  | .withdraw id => do
    let w ← get
    let (there, registry) := w.registry.withdraw id
    set { w with registry }
    if there then reply id .dropped
    return .done (.flag there)
  | .pending => look fun w => .count w.registry.pending.length
  | .sweep => operate self .sweep .outcome
  | .stop => operate self .stop .outcome
  | .isStopped => look fun w => .flag w.registry.stopped
  | .status => look fun w => .status w.registry.status
  | .active => look fun w => .sessions w.registry.active
  | .activate key externalKey => do
    let w ← get
    let (result, registry) := w.registry.activate key externalKey
    set { w with registry }
    return .done (.awaited result)
  | .session key => look fun w => .session (w.registry.session? key)
  | .byExternal externalKey => look fun w => .session (w.registry.byExternal? externalKey)
  | .release key reason => operate self (.release key reason) .outcome
  | .forceRelease slot reason => operate self (.forceRelease slot reason) .outcome
  | .terminate key reason => do
    let task ← spawn (.operation (.release key reason) .outcome)
    return .waits (.join task) [.finished task]
  | .createContainer namePrefix image env nodePort => do
    let w ← get
    let label ← drawLabel
    return .done (.flag (← program (w.setup.client.createContainer label
      w.clientMemory.sharedFolder namePrefix image env nodePort)))
  | .registerNode name remote => do
    let client := (← get).setup.client
    return .done (.registration (← program (client.registerNode name remote).run))
  | .stopContainer name => do
    return .done (.done (← program (Cluster.Client.stopContainer name).run))
  | .running => do
    let client := (← get).setup.client
    return .done (.running (← program client.runningContainers.run))
  | .selector => look fun w => .text w.setup.client.ownerSelector
  | .initialise => clientProgram Cluster.Client.initialise
  | .cleanup => clientProgram fun c memory => do
    c.cleanup
    return memory
  | .exitHook => clientProgram Cluster.Client.exitHook
  | .copyFiles pod folder => copyFiles pod folder
  | .execute pod command wait => runCommand pod command wait
  | .request r name => request self r name
  | .say outcome => return .done outcome

end BrowserGrid.Simulation.Sim
