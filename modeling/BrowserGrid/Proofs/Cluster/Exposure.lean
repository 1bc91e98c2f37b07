import BrowserGrid.Proofs.Cluster.Platform
import BrowserGrid.Proofs.Cluster.Registration

/-!
# Where the screen of a registered pod leads

A registration that succeeds is taken apart (`registerNode_inv`): the listing of the pods, what it
says, and the service that is ensured.  On a platform whose calls have their effects, that service
is one of the hub's that was there and is reused, or a new one in the place of any other with its
name (`Ensured`, `Registered`).

A service is reused if it picks the pod and can be reached from outside (`reusable_iff`).  The port
of the pod to which it leads is not looked at.  So a new service leads to the port of the screen
(`entry_of_assigned`), and one that is reused leads where it led before: `registered_target_iff`
says which services that are left over lead elsewhere, and `stale_port_reused` is such a case.
-/

namespace BrowserGrid

/-- The port of a pod to which a port of a service leads: the same one, unless another is stated. -/
def ServicePort.target (port : ServicePort) : Nat := port.targetPort.getD port.port

namespace Cluster

namespace Client

open Program

variable {σ : Type} {P : Platform σ} {c : Client} {s s' : σ}
  {nodeName remoteHost ip name slot : String} {port outside : Nat} {service exposed : Service}
  {r : NodeRegistration}

/-! ### Ensuring a service -/

/-- How a service is ensured: one that is there is used, or a new one takes the place of any other
with its name. -/
inductive Ensured (P : Platform σ) (c : Client) (name : String) (service : Service)
    (before : Inventory) (exposed : Service) : Inventory → Prop where
  | reused (hfound : (c.ownServices P before).find? (·.name? == some name) = some exposed)
      (hreusable : c.reusable exposed service = true) :
    Ensured P c name service before exposed before
  | fresh {after : Inventory}
      (hunfit : ∀ existing, (c.ownServices P before).find? (·.name? == some name) = some existing →
        c.reusable existing service = false)
      (hcreated : ∃ t, (P.answer t (.createService service)).1 = .ok exposed)
      (hassigned : Assigned service exposed)
      (hinserted : Inserted exposed (before.services.filter (·.name? ≠ some name)) after.services)
      (hpods : after.pods = before.pods) :
    Ensured P c name service before exposed after

/-- A search among the hub's services finds the one with the name, since names are distinct. -/
theorem find?_ownServices_eq_some_iff {i : Inventory} :
    (c.ownServices P i).find? (·.name? == some name) = some service ↔
      service ∈ i.services ∧ P.selects c.ownerSelector service.metadata.labels = true ∧
        service.name? = some name := by
  have hsound {found : Service}
      (h : (c.ownServices P i).find? (·.name? == some name) = some found) :
      found ∈ i.services ∧ P.selects c.ownerSelector found.metadata.labels = true ∧
        found.name? = some name := by
    obtain ⟨hmem, howned⟩ := List.mem_filter.1 (List.mem_of_find?_eq_some h)
    exact ⟨hmem, howned, by simpa using List.find?_some h⟩
  refine ⟨hsound, fun ⟨hmem, howned, hname⟩ => ?_⟩
  have hown : service ∈ c.ownServices P i := List.mem_filter.2 ⟨hmem, howned⟩
  obtain ⟨found, hfound⟩ : ∃ found,
      (c.ownServices P i).find? (·.name? == some name) = some found :=
    Option.isSome_iff_exists.1 (List.find?_isSome.2 ⟨service, hown, by simp [hname]⟩)
  obtain ⟨hfoundmem, -, hfoundname⟩ := hsound hfound
  rwa [eq_of_name i.servicesDistinct hmem hfoundmem hname hfoundname]

/-- A service that is taken in is the only one with its name. -/
theorem createService_ok (hP : P.Performs) (hname : service.name? = some name)
    (h : P.answer s (.createService service) = (.ok exposed, s')) :
    Assigned service exposed ∧
      Inserted exposed ((P.holds s).services.filter (·.name? ≠ some name)) (P.holds s').services ∧
      (P.holds s').pods = (P.holds s).pods := by
  obtain ⟨hassigned, hinserted, hpods⟩ := hP.effect h
  refine ⟨hassigned, ?_, hpods⟩
  rwa [hinserted.filter_eq (P.holds s').servicesDistinct (hassigned.name?.trans hname)]

theorem ensureService_ok (hP : P.Performs) (hname : service.name? = some name)
    (h : run P.answer (c.ensureService service).run s = (.ok exposed, s')) :
    Ensured P c name service (P.holds s) exposed (P.holds s') := by
  rw [ensureService, hname, Option.getD_some] at h
  obtain ⟨services, s₁, hlist, h⟩ := run_bind_eq_ok.1 h
  obtain ⟨rfl, hsame⟩ := hP.listServices hlist
  split at h
  · rename_i existing hfound
    split at h
    · rename_i hreusable
      cases h
      rw [hsame]
      exact .reused hfound hreusable
    · -- the unfit service is deleted first, so the filter by the name is made twice
      rename_i hunfit
      obtain ⟨_, s₂, hdelete, hcreate⟩ := run_bind_eq_ok.1 h
      rw [run_perform] at hdelete hcreate
      obtain ⟨hservices, hpods⟩ := hP.effect hdelete
      obtain ⟨hassigned, hinserted, hpods'⟩ := createService_ok hP hname hcreate
      simp only [hservices, hsame, List.filter_filter, Bool.and_self] at hinserted
      refine .fresh (fun other hother => ?_) ⟨s₂, congrArg Prod.fst hcreate⟩ hassigned hinserted
        (hpods'.trans (hpods.trans ?_))
      · rw [hfound] at hother
        cases hother
        simpa using hunfit
      · rw [hsame]
  · rename_i hmissing
    obtain ⟨hassigned, hinserted, hpods⟩ := createService_ok hP hname h
    rw [hsame] at hinserted hpods
    refine .fresh (fun other hother => ?_) ⟨s₁, congrArg Prod.fst h⟩ hassigned hinserted hpods
    rw [hmissing] at hother
    cases hother

/-! ### A registration taken apart -/

/-- A registration that succeeds is a listing of the pods, what it says, and the service. -/
theorem registerNode_inv {answer : σ → (op : Operation) → Except ClusterError op.Reply × σ}
    (h : run answer (c.registerNode nodeName remoteHost).run s = (.ok r, s')) :
    ∃ ip pods s₁ resolved, Endpoint.host? remoteHost = some ip ∧
      answer s (.listPods c.ownerSelector) = (.ok pods, s₁) ∧
      c.resolve nodeName remoteHost ip pods = .ok resolved ∧
      run answer (c.expose ip resolved).run s₁ = (.ok r, s') := by
  cases hip : Endpoint.host? remoteHost with
  | none =>
    rw [registerNode_unparsed hip] at h
    nomatch h
  | some ip =>
    rw [registerNode_eq hip] at h
    obtain ⟨pods, s₁, hlist, h⟩ := run_bind_eq_ok.1 h
    obtain ⟨resolved, s₂, hresolve, h⟩ := run_bind_eq_ok.1 h
    obtain ⟨hresolved, rfl⟩ := Prod.mk.inj hresolve
    exact ⟨ip, pods, s₁, resolved, rfl, hlist, hresolved, h⟩

/-- The answer to the registration of `pod` and the inventory after it: the one before if no service
is wanted, else one in which the wanted service is `Ensured`. -/
inductive Registered (P : Platform σ) (c : Client) (pod : Pod) (before : Inventory) :
    NodeRegistration → Inventory → Prop where
  | screenless {name ip : String} (hwanted : c.wantedService pod name = .ok none) :
    Registered P c pod before ⟨name, ip, none⟩ before
  | exposed {name ip : String} {service exposed : Service} {after : Inventory}
      (hwanted : c.wantedService pod name = .ok (some service))
      (hensured : Ensured P c name service before exposed after) :
    Registered P c pod before ⟨name, ip, exposed.nodePort? c.screenPortName⟩ after

theorem registerNode_registered (hP : P.Performs)
    (h : run P.answer (c.registerNode nodeName remoteHost).run s = (.ok r, s')) :
    ∃ pod, Behind P.answer c s remoteHost r.ipAddress pod ∧ pod.name? = some r.containerId ∧
      Registered P c pod (P.holds s) r (P.holds s') := by
  obtain ⟨ip, pods, s₁, ⟨name, wanted⟩, hip, hlist, hresolve, h⟩ := registerNode_inv h
  obtain ⟨pod, hfirst, hname, hwanted⟩ := resolve_ok hresolve
  have hbehind : Behind P.answer c s remoteHost ip pod := ⟨hip, pods, by rw [hlist], hfirst⟩
  have hsame : P.holds s₁ = P.holds s := (hP.listPods hlist).2
  cases wanted with
  | none =>
    cases h
    rw [hsame]
    exact ⟨pod, hbehind, hname, .screenless hwanted⟩
  | some service =>
    obtain ⟨exposed, s₂, hensure, h⟩ := run_bind_eq_ok.1 h
    cases h
    obtain ⟨slot, port, -, rfl⟩ := wantedService_ok hname hwanted
    have hensured := ensureService_ok hP rfl hensure
    rw [hsame] at hensured
    exact ⟨pod, hbehind, hname, .exposed hwanted hensured⟩

/-! ### Where the service leads -/

/-- A service that exposes a screen: it has the name of the pod, picks the pod by its slot, and its
first port with the name for screens can be reached from outside. -/
structure Exposes (c : Client) (held : Service) (name slot : String) (entry : ServicePort)
    (outside : Nat) : Prop where
  named : held.name? = some name
  selector : held.spec.selector = KeyMap.singleton c.slotLabel slot
  first : held.spec.ports.find? (·.name == some c.screenPortName) = some entry
  outside : entry.nodePort = some outside

/-- A service of the hub that exposes the screen of a pod, but not at the port of that screen. -/
structure Misleads (P : Platform σ) (c : Client) (name slot : String) (port : Nat)
    (held : Service) : Prop where
  owned : P.selects c.ownerSelector held.metadata.labels = true
  elsewhere : ∃ entry outside, c.Exposes held name slot entry outside ∧ entry.target ≠ port

theorem nodePort?_eq_some {portName : String} : service.nodePort? portName = some outside ↔
    ∃ entry, service.spec.ports.find? (·.name == some portName) = some entry ∧
      entry.nodePort = some outside :=
  Option.bind_eq_some_iff

/-- What is reused need not lead to the port of the screen. -/
theorem reusable_iff (hname : exposed.name? = some name) :
    c.reusable exposed (c.screenService name slot port).service = true ↔
      ∃ entry outside, c.Exposes exposed name slot entry outside := by
  rw [reusable, Bool.and_eq_true, decide_eq_true_iff, Option.isSome_iff_exists]
  constructor
  · rintro ⟨hselector, outside, houtside⟩
    obtain ⟨entry, hentry, houtside⟩ := nodePort?_eq_some.1 houtside
    exact ⟨entry, outside, hname, hselector, hentry, houtside⟩
  · rintro ⟨entry, outside, hexposes⟩
    exact ⟨hexposes.selector, outside,
      nodePort?_eq_some.2 ⟨entry, hexposes.first, hexposes.outside⟩⟩

/-- A new service has one port, and it leads to the port of the screen. -/
theorem entry_of_assigned (h : Assigned (c.screenService name slot port).service exposed) :
    ∃ entry, exposed.spec.ports = [entry] ∧
      exposed.spec.ports.find? (·.name == some c.screenPortName) = some entry ∧
      entry.target = port := by
  obtain ⟨entry, hports, hentry⟩ := List.map_eq_singleton_iff.1 h.ports
  have hentryname : entry.name = some c.screenPortName := congrArg ServicePort.name hentry
  have htarget : entry.targetPort = some port := congrArg ServicePort.targetPort hentry
  refine ⟨entry, hports, ?_, by rw [ServicePort.target, htarget]; rfl⟩
  rw [hports, List.find?_cons_of_pos (by rw [hentryname]; exact beq_self_eq_true _)]

theorem Ensured.target_iff {before after : Inventory}
    (h : Ensured P c name (c.screenService name slot port).service before exposed after)
    (houtside : exposed.nodePort? c.screenPortName = some outside) :
    exposed ∈ after.services ∧ ∃ entry, c.Exposes exposed name slot entry outside ∧
      (entry.target = port ↔
        ∀ leftover ∈ before.services, ¬c.Misleads P name slot port leftover) := by
  obtain ⟨entry, hfirst, hentry⟩ := nodePort?_eq_some.1 houtside
  cases h with
  | reused hfound hreusable =>
    obtain ⟨hmem, howned, hname⟩ := find?_ownServices_eq_some_iff.1 hfound
    obtain ⟨_, _, hexposes⟩ := (reusable_iff hname).1 hreusable
    have hexposes : c.Exposes exposed name slot entry outside :=
      ⟨hname, hexposes.selector, hfirst, hentry⟩
    refine ⟨hmem, entry, hexposes, fun htarget leftover hleftover hmisleads => ?_, fun hnone => ?_⟩
    · obtain ⟨-, other, otherOutside, hother, htargets⟩ := hmisleads
      obtain rfl := eq_of_name before.servicesDistinct hmem hleftover hname hother.named
      obtain rfl := Option.some.inj (hfirst.symm.trans hother.first)
      exact htargets htarget
    · by_contra htarget
      exact hnone exposed hmem ⟨howned, entry, outside, hexposes, htarget⟩
  | fresh hunfit hcreated hassigned hinserted hpods =>
    obtain ⟨only, hports, honly, htarget⟩ := entry_of_assigned hassigned
    obtain rfl := Option.some.inj (hfirst.symm.trans honly)
    refine ⟨hinserted.mem, entry, ⟨hassigned.name?, hassigned.selector, hfirst, hentry⟩,
      fun _ leftover hleftover hmisleads => ?_, fun _ => htarget⟩
    -- a leftover that misleads would have been found, and reused
    obtain ⟨howned, other, otherOutside, hother, -⟩ := hmisleads
    have hreusable : c.reusable leftover (c.screenService name slot port).service = true :=
      (reusable_iff hother.named).2 ⟨other, otherOutside, hother⟩
    rw [hunfit leftover (find?_ownServices_eq_some_iff.2 ⟨hleftover, howned, hother.named⟩)]
      at hreusable
    nomatch hreusable

/-- A screen that is registered with a port outside is exposed there by the service of the pod.
The service leads to the port of the screen unless the hub had one already that exposed the screen
and led elsewhere. -/
theorem registered_target_iff (hP : P.Performs)
    (h : run P.answer (c.registerNode nodeName remoteHost).run s = (.ok r, s'))
    (houtside : r.screenPort = some outside) :
    ∃ pod slot port held entry, Behind P.answer c s remoteHost r.ipAddress pod ∧
      c.Exposable pod r.containerId slot port ∧ held ∈ (P.holds s').services ∧
      c.Exposes held r.containerId slot entry outside ∧
      (entry.target = port ↔
        ∀ leftover ∈ (P.holds s).services, ¬c.Misleads P r.containerId slot port leftover) := by
  obtain ⟨pod, hbehind, hname, hregistered⟩ := registerNode_registered hP h
  generalize P.holds s' = after at hregistered ⊢
  cases hregistered with
  | screenless => nomatch houtside
  | exposed hwanted hensured =>
    obtain ⟨slot, port, hexposable, rfl⟩ := wantedService_ok hname hwanted
    obtain ⟨hheld, entry, hexposes, htarget⟩ := hensured.target_iff houtside
    exact ⟨pod, slot, port, _, entry, hbehind, hexposable, hheld, hexposes, htarget⟩

/-! ### A service that is left over -/

/-- The pod of a node whose screen is at port 7900. -/
def screenPod : Pod :=
  let env := KeyMap.singleton "NOVNC_PORT" "7900"
  let submitted := (nodePod {} ⟨1⟩ none "node" "image" env none).pod
  { submitted with
    metadata := { submitted.metadata with name := some "node-1", generateName := none }
    status := some { podIp := some "10.1.0.1" } }

/-- A service that exposes that screen under the node port 31000, but leads to the port 5900. -/
def staleService : Service :=
  let submitted := (screenService {} "node-1" (Uuid.text ⟨1⟩) 5900).service
  { submitted with
    spec := { submitted.spec with
      ports := submitted.spec.ports.map fun port => { port with nodePort := some 31000 } } }

/-- The pod runs and has no service. -/
def screenOnly : Inventory := { pods := [screenPod] }

/-- The pod runs, and the service is left over. -/
def screenAndStale : Inventory := { pods := [screenPod], services := [staleService] }

theorem registered_target_iff_fresh :
    ∃ after r, run listPlatform.answer (registerNode {} "node" "http://10.1.0.1:5555").run
        screenOnly = (.ok r, after) ∧ r.screenPort = some 30000 ∧
      ∃ pod slot port held entry,
        Behind listPlatform.answer {} screenOnly "http://10.1.0.1:5555" r.ipAddress pod ∧
        Exposable {} pod r.containerId slot port ∧ held ∈ (listPlatform.holds after).services ∧
        Exposes {} held r.containerId slot entry 30000 ∧
        (entry.target = port ↔ ∀ leftover ∈ (listPlatform.holds screenOnly).services,
          ¬Misleads listPlatform {} r.containerId slot port leftover) := by
  have hrun : run listPlatform.answer (registerNode {} "node" "http://10.1.0.1:5555").run
      screenOnly = (.ok ⟨"node-1", "10.1.0.1", some 30000⟩, (screenOnly.createService
        (screenService {} "node-1" (Uuid.text ⟨1⟩) 7900).service).2) := by
    decide +kernel
  exact ⟨_, _, hrun, rfl,
    registered_target_iff Platform.listPlatform_keeps.performs hrun rfl⟩

theorem stale_port_reused :
    run listPlatform.answer (registerNode {} "node" "http://10.1.0.1:5555").run screenAndStale =
        (.ok ⟨"node-1", "10.1.0.1", some 31000⟩, screenAndStale) ∧
      screenPod.envVar? "NOVNC_PORT" = some "7900" ∧
      ∀ held ∈ screenAndStale.services, ∀ entry ∈ held.spec.ports, entry.target ≠ 7900 := by
  decide +kernel

end Client

end Cluster

end BrowserGrid
