import BrowserGrid.Cluster.Client
import BrowserGrid.Proofs.Cluster.Calls
import BrowserGrid.Proofs.Text.Spelling
import BrowserGrid.Simulation.Cluster

/-!
# Who stands behind a node that announces itself

`registerNode` asks the platform once for the pods of the hub.  What it makes of the answer needs no
further call (`resolve`): the name of the first pod with the address of the node, and the service
that the screen of this pod needs.  Only then is that service ensured (`registerNode_eq`), so

* a pod that is not found (`resolve_foreign`), has no name (`resolve_ok`), or whose screen or slot
  cannot be read (`wantedService_ok`) ends the program before it changes anything;
* what it changes is one service, which has the name of the pod (`ensureService_calls`).

A pod that is found is registered if it has no screen (`registerNode_screenless`), or once its
service is there (`registerNode_exposed`).  `registerNode_resolves` joins all this for every
platform: its answers to the calls are arbitrary, failures included.
-/

namespace BrowserGrid.Cluster

/-- The operations that create or delete the service of a name. -/
inductive Operation.WritesService (name : String) : Operation → Prop where
  | create {service : Service} (named : service.name? = some name) :
    WritesService name (.createService service)
  | delete : WritesService name (.deleteService name)

namespace Client

open Program

variable {σ : Type} {answer : σ → (op : Operation) → Except ClusterError op.Reply × σ}
  {c : Client} {s : σ} {nodeName remoteHost ip name : String} {pods : List Pod} {pod : Pod}

/-! ### What the listing says -/

/-- The first pod of a listing with an address. -/
structure FirstAt (pods : List Pod) (ip : String) (pod : Pod) : Prop where
  address : pod.ip? = some ip
  first : ∃ front back, pods = front ++ pod :: back ∧ ∀ other ∈ front, other.ip? ≠ some ip

theorem find?_eq_some_iff_firstAt :
    pods.find? (·.ip? == some ip) = some pod ↔ FirstAt pods ip pod := by
  rw [List.find?_eq_some_iff_append]
  constructor
  · rintro ⟨haddress, front, back, rfl, hfront⟩
    exact ⟨by simpa using haddress, front, back, rfl, by simpa using hfront⟩
  · rintro ⟨haddress, front, back, rfl, hfront⟩
    exact ⟨by simpa using haddress, front, back, rfl, by simpa using hfront⟩

/-- A pod whose screen can be exposed: it has a name, the port of its screen is a number of 16 bits,
and it has the label of its slot. -/
structure Exposable (c : Client) (pod : Pod) (name slot : String) (port : Nat) : Prop where
  named : pod.name? = some name
  screen : ∃ value, pod.envVar? c.screenVar = some value ∧
    Text.port? (Text.trim value) = some port
  narrow : port < 2 ^ 16
  labelled : pod.metadata.labels.get? c.slotLabel = some slot

/-- The service that the screen of a pod needs; nothing if the pod has no screen. -/
def wantedService (c : Client) (pod : Pod) (name : String) :
    Except ClusterError (Option Service) := do
  match ← c.screenPort? pod name with
  | none => return none
  | some port => return some (c.screenService name (← c.slotLabelOf pod name) port).service

/-- The name of the pod behind a node that announces itself, and the service that its screen needs,
if it has one. -/
def resolve (c : Client) (nodeName remoteHost ip : String) (pods : List Pod) :
    Except ClusterError (String × Option Service) :=
  match pods.find? (·.ip? == some ip) with
  | none =>
    .error (.registrationFailed ip ("node " ++ nodeName ++ " announced from " ++ remoteHost))
  | some pod =>
    match pod.name? with
    | none => .error (.unreadable "pod without a name")
    | some name => return (name, ← c.wantedService pod name)

theorem screenPort?_ok {port : Nat} (h : c.screenPort? pod name = .ok (some port)) :
    ∃ value, pod.envVar? c.screenVar = some value ∧ Text.port? (Text.trim value) = some port := by
  unfold screenPort? at h
  split at h
  · cases h
  · rename_i value hvalue
    split at h
    · rename_i port' hport
      cases h
      exact ⟨value, hvalue, hport⟩
    · cases h

theorem slotLabelOf_ok {slot : String} (h : c.slotLabelOf pod name = .ok slot) :
    pod.metadata.labels.get? c.slotLabel = some slot := by
  unfold slotLabelOf at h
  split at h
  · cases h
    assumption
  · cases h

/-- Only an exposable pod gets a service, and one with its name. -/
theorem wantedService_ok {service : Service} (hname : pod.name? = some name)
    (h : c.wantedService pod name = .ok (some service)) :
    ∃ slot port, c.Exposable pod name slot port ∧
      service = (c.screenService name slot port).service := by
  obtain ⟨port?, hport, h⟩ := bind_eq_ok h
  cases port? with
  | none => nomatch h
  | some port =>
    obtain ⟨slot, hslot, h⟩ := bind_eq_ok h
    cases h
    obtain ⟨value, hvalue, hread⟩ := screenPort?_ok hport
    have hle : port ≤ Text.maxPort := Text.le_of_natural? hread
    exact ⟨slot, port, ⟨hname, ⟨value, hvalue, hread⟩, Nat.lt_succ_of_le hle,
      slotLabelOf_ok hslot⟩, rfl⟩

/-- What is resolved is the first pod with the address. -/
theorem resolve_ok {wanted : Option Service}
    (h : c.resolve nodeName remoteHost ip pods = .ok (name, wanted)) :
    ∃ pod, FirstAt pods ip pod ∧ pod.name? = some name ∧
      c.wantedService pod name = .ok wanted := by
  unfold resolve at h
  split at h
  · nomatch h
  · rename_i pod hfind
    split at h
    · nomatch h
    · rename_i found hname
      obtain ⟨service?, hwanted, h⟩ := bind_eq_ok h
      cases h
      exact ⟨pod, find?_eq_some_iff_firstAt.1 hfind, hname, hwanted⟩

theorem resolve_of_screenless (hfirst : FirstAt pods ip pod) (hname : pod.name? = some name)
    (hscreen : pod.envVar? c.screenVar = none) :
    c.resolve nodeName remoteHost ip pods = .ok (name, none) := by
  simp only [resolve, find?_eq_some_iff_firstAt.2 hfirst, hname, wantedService, screenPort?,
    hscreen]
  rfl

theorem resolve_of_exposable {slot : String} {port : Nat} (hfirst : FirstAt pods ip pod)
    (h : c.Exposable pod name slot port) :
    c.resolve nodeName remoteHost ip pods =
      .ok (name, some (c.screenService name slot port).service) := by
  obtain ⟨value, hvalue, hport⟩ := h.screen
  have hlabel : c.slotLabelOf pod name = .ok slot := by rw [slotLabelOf, h.labelled]
  simp only [resolve, find?_eq_some_iff_firstAt.2 hfirst, h.named, wantedService, screenPort?,
    hvalue, hport, hlabel]
  rfl

/-- An address that no pod has is refused. -/
theorem resolve_foreign (h : ∀ pod ∈ pods, pod.ip? ≠ some ip) :
    c.resolve nodeName remoteHost ip pods = .error (.registrationFailed ip
      ("node " ++ nodeName ++ " announced from " ++ remoteHost)) := by
  have hnone : pods.find? (·.ip? == some ip) = none :=
    List.find?_eq_none.2 fun pod hpod => by simpa using h pod hpod
  rw [resolve, hnone]

/-! ### The service of the screen -/

/-- Beside a listing, only the service itself is touched. -/
theorem ensureService_calls {service : Service} (hname : service.name? = some name)
    {op : Operation} (hop : op ∈ calls answer (c.ensureService service).run s) :
    op.isQuery ∨ op.WritesService name := by
  have hcreate {s : σ} (h : op ∈ calls answer (perform (.createService service)).run s) :
      op.WritesService name := by
    obtain rfl := mem_calls_perform.1 h
    exact .create hname
  rw [ensureService, hname, Option.getD_some, mem_calls_bind] at hop
  obtain hop | ⟨services, -, hop⟩ := hop
  · obtain rfl := mem_calls_perform.1 hop
    exact .inl rfl
  · refine .inr ?_
    split at hop
    · split at hop
      · nomatch hop
      · rw [mem_calls_bind] at hop
        obtain hop | ⟨_, -, hop⟩ := hop
        · obtain rfl := mem_calls_perform.1 hop
          exact .delete
        · exact hcreate hop
    · exact hcreate hop

/-- What is left to do for a pod once it is resolved. -/
def expose (c : Client) (ip : String) : String × Option Service → Fallible NodeRegistration
  | (name, none) => return ⟨name, ip, none⟩
  | (name, some service) => do
    let exposed : Service ← c.ensureService service
    return ⟨name, ip, exposed.nodePort? c.screenPortName⟩

/-- A registration is a listing, what it says, and the service. -/
theorem registerNode_eq (hip : Endpoint.host? remoteHost = some ip) :
    c.registerNode nodeName remoteHost = (do
      let pods : List Pod ← perform (.listPods c.ownerSelector)
      c.expose ip (← ofExcept (c.resolve nodeName remoteHost ip pods))) := by
  rw [registerNode, hip]
  refine congrArg (perform (.listPods c.ownerSelector) >>= ·) (funext fun pods => ?_)
  -- after the listing, every exit of the program is one of `resolve`
  rw [resolve]
  cases pods.find? (·.ip? == some ip) with
  | none => rfl
  | some pod =>
    dsimp only
    cases pod.name? with
    | none => rfl
    | some name =>
      dsimp only
      rw [wantedService]
      cases c.screenPort? pod name with
      | error e => rfl
      | ok port? =>
        cases port? with
        | none => rfl
        | some port =>
          cases c.slotLabelOf pod name with
          | error e => rfl
          | ok slot => rfl

/-! ### The whole program -/

/-- The platform lists a pod as the first one with the host of an announced address. -/
structure Behind (answer : σ → (op : Operation) → Except ClusterError op.Reply × σ) (c : Client)
    (s : σ) (remoteHost ip : String) (pod : Pod) : Prop where
  host : Endpoint.host? remoteHost = some ip
  listed : ∃ pods, (answer s (.listPods c.ownerSelector)).1 = .ok pods ∧ FirstAt pods ip pod

theorem registerNode_unparsed (hip : Endpoint.host? remoteHost = none) :
    c.registerNode nodeName remoteHost =
      refuse (.invalidInput ("cannot parse remote host '" ++ remoteHost ++ "'")) := by
  rw [registerNode, hip]

theorem expose_ok {wanted : Option Service} {r : NodeRegistration}
    (h : (run answer (c.expose ip (name, wanted)).run s).1 = .ok r) :
    r.containerId = name ∧ r.ipAddress = ip := by
  cases wanted with
  | none =>
    cases h
    exact ⟨rfl, rfl⟩
  | some service =>
    obtain ⟨exposed, -, h⟩ := run_bind_ok h
    cases h
    exact ⟨rfl, rfl⟩

theorem mem_calls_expose {wanted : Option Service} {op : Operation}
    (hop : op ∈ calls answer (c.expose ip (name, wanted)).run s) :
    ∃ service, wanted = some service ∧ op ∈ calls answer (c.ensureService service).run s := by
  cases wanted with
  | none => nomatch hop
  | some service =>
    rw [expose, mem_calls_bind] at hop
    obtain hop | ⟨_, -, hop⟩ := hop
    · exact ⟨service, rfl, hop⟩
    · nomatch hop

/-- A registration that succeeds has found the pod. -/
theorem registerNode_ok {r : NodeRegistration}
    (h : (run answer (c.registerNode nodeName remoteHost).run s).1 = .ok r) :
    ∃ pod, Behind answer c s remoteHost r.ipAddress pod ∧ pod.name? = some r.containerId := by
  cases hip : Endpoint.host? remoteHost with
  | none =>
    rw [registerNode_unparsed hip] at h
    nomatch h
  | some ip =>
    rw [registerNode_eq hip] at h
    obtain ⟨pods, hpods, h⟩ := run_bind_ok h
    obtain ⟨⟨name, wanted⟩, hresolved, h⟩ := run_bind_ok h
    obtain ⟨hid, haddress⟩ := expose_ok h
    obtain ⟨pod, hfirst, hname, -⟩ := resolve_ok hresolved
    rw [hid, haddress]
    exact ⟨pod, ⟨hip, pods, hpods, hfirst⟩, hname⟩

/-- What is resolved is what remains to be exposed. -/
theorem run_registerNode {resolved : String × Option Service}
    (hbehind : Behind answer c s remoteHost ip pod)
    (hresolve : ∀ pods, FirstAt pods ip pod →
      c.resolve nodeName remoteHost ip pods = .ok resolved) :
    run answer (c.registerNode nodeName remoteHost).run s =
      run answer (c.expose ip resolved).run (answer s (.listPods c.ownerSelector)).2 := by
  obtain ⟨hip, pods, hpods, hfirst⟩ := hbehind
  have hlisted : (run answer (perform (.listPods c.ownerSelector)).run s).1 = .ok pods := hpods
  rw [registerNode_eq hip, run_bind_of_ok hlisted, hresolve pods hfirst]
  rfl

theorem registerNode_screenless (hbehind : Behind answer c s remoteHost ip pod)
    (hname : pod.name? = some name) (hscreen : pod.envVar? c.screenVar = none) :
    (run answer (c.registerNode nodeName remoteHost).run s).1 = .ok ⟨name, ip, none⟩ := by
  rw [run_registerNode hbehind fun _ hfirst => resolve_of_screenless hfirst hname hscreen]
  rfl

theorem registerNode_exposed {slot : String} {port : Nat} {service : Service}
    (hbehind : Behind answer c s remoteHost ip pod) (hexposable : c.Exposable pod name slot port)
    (hensure : (run answer (c.ensureService (c.screenService name slot port).service).run
      (answer s (.listPods c.ownerSelector)).2).1 = .ok service) :
    (run answer (c.registerNode nodeName remoteHost).run s).1 =
      .ok ⟨name, ip, service.nodePort? c.screenPortName⟩ := by
  rw [run_registerNode hbehind fun _ hfirst => resolve_of_exposable hfirst hexposable, expose,
    run_bind_of_ok hensure]
  rfl

theorem registerNode_foreign (hip : Endpoint.host? remoteHost = some ip)
    (hpods : (answer s (.listPods c.ownerSelector)).1 = .ok pods)
    (hforeign : ∀ pod ∈ pods, pod.ip? ≠ some ip) :
    (run answer (c.registerNode nodeName remoteHost).run s).1 = .error (.registrationFailed ip
      ("node " ++ nodeName ++ " announced from " ++ remoteHost)) := by
  have hlisted : (run answer (perform (.listPods c.ownerSelector)).run s).1 = .ok pods := hpods
  rw [registerNode_eq hip, run_bind_of_ok hlisted, resolve_foreign hforeign]
  rfl

/-- A registration changes nothing, or one service. -/
theorem mem_calls_registerNode {op : Operation}
    (hop : op ∈ calls answer (c.registerNode nodeName remoteHost).run s)
    (hwrites : op.isQuery = false) :
    ∃ ip pod name slot port, Behind answer c s remoteHost ip pod ∧
      c.Exposable pod name slot port ∧ op.WritesService name := by
  cases hip : Endpoint.host? remoteHost with
  | none =>
    rw [registerNode_unparsed hip] at hop
    nomatch hop
  | some ip =>
    rw [registerNode_eq hip, mem_calls_bind] at hop
    obtain hop | ⟨pods, hpods, hop⟩ := hop
    · obtain rfl := mem_calls_perform.1 hop
      nomatch hwrites
    · rw [mem_calls_bind] at hop
      obtain hop | ⟨⟨name, wanted⟩, hresolved, hop⟩ := hop
      · nomatch hop
      · obtain ⟨service, rfl, hensure⟩ := mem_calls_expose hop
        obtain ⟨pod, hfirst, hname, hwanted⟩ := resolve_ok hresolved
        obtain ⟨slot, port, hexposable, rfl⟩ := wantedService_ok hname hwanted
        refine ⟨ip, pod, name, slot, port, ⟨hip, pods, hpods, hfirst⟩, hexposable, ?_⟩
        -- the service that is wanted has the name of the pod
        refine (ensureService_calls rfl hensure).resolve_left ?_
        rw [hwrites]
        exact Bool.false_ne_true

/-- The answer of `c.registerNode nodeName remoteHost` run from `s`, by the pod `Behind` the
announced host, and which of its calls are no queries. -/
structure Resolves (answer : σ → (op : Operation) → Except ClusterError op.Reply × σ) (c : Client)
    (s : σ) (nodeName remoteHost : String) : Prop where
  /-- What is registered is the name and the address of the pod that the platform lists first among
  those with the announced host. -/
  identified : ∀ r, (run answer (c.registerNode nodeName remoteHost).run s).1 = .ok r →
    ∃ pod, Behind answer c s remoteHost r.ipAddress pod ∧ pod.name? = some r.containerId
  /-- A host that no listed pod has is refused. -/
  refused : ∀ ip pods, Endpoint.host? remoteHost = some ip →
    (answer s (.listPods c.ownerSelector)).1 = .ok pods → (∀ pod ∈ pods, pod.ip? ≠ some ip) →
    (run answer (c.registerNode nodeName remoteHost).run s).1 = .error (.registrationFailed ip
      ("node " ++ nodeName ++ " announced from " ++ remoteHost))
  /-- A pod without a screen is registered as it is. -/
  screenless : ∀ ip pod name, Behind answer c s remoteHost ip pod → pod.name? = some name →
    pod.envVar? c.screenVar = none →
    (run answer (c.registerNode nodeName remoteHost).run s).1 = .ok ⟨name, ip, none⟩
  /-- A pod that can be exposed is registered with the outside port of its service. -/
  exposed : ∀ ip pod name slot port, Behind answer c s remoteHost ip pod →
    c.Exposable pod name slot port → ∀ service,
    (run answer (c.ensureService (c.screenService name slot port).service).run
      (answer s (.listPods c.ownerSelector)).2).1 = .ok service →
    (run answer (c.registerNode nodeName remoteHost).run s).1 =
      .ok ⟨name, ip, service.nodePort? c.screenPortName⟩
  /-- Something is created or deleted only if that pod can be exposed, and it is the service with
  the name of the pod. -/
  confined : ∀ op ∈ calls answer (c.registerNode nodeName remoteHost).run s, op.isQuery = false →
    ∃ ip pod name slot port, Behind answer c s remoteHost ip pod ∧
      c.Exposable pod name slot port ∧ op.WritesService name

/-- A node is never registered as a foreign or an unresolved pod, and nothing is written for one. -/
theorem registerNode_resolves
    (answer : σ → (op : Operation) → Except ClusterError op.Reply × σ) (c : Client) (s : σ)
    (nodeName remoteHost : String) : c.Resolves answer s nodeName remoteHost where
  identified _ := registerNode_ok
  refused _ _ := registerNode_foreign
  screenless _ _ _ := registerNode_screenless
  exposed _ _ _ _ _ hbehind hexposable _ := registerNode_exposed hbehind hexposable
  confined _ := mem_calls_registerNode

open Simulation in
-- A pod with a screen is found by its address and gets its service.
example :
    let client : Client := {}
    let pod := client.nodePod ⟨1⟩ none "node-" "image" (KeyMap.singleton "NOVNC_PORT" "7900") none
    let cluster := (({} : SimCluster).createPod pod.pod).2
    calls SimCluster.answer (client.registerNode "node" "http://10.1.0.1:5555").run cluster =
      [.listPods client.ownerSelector, .listServices client.ownerSelector,
        .createService (client.screenService "node-00001" (Uuid.text ⟨1⟩) 7900).service] := by
  decide +kernel

end Client

end BrowserGrid.Cluster
