import BrowserGrid.Cluster.Client
import BrowserGrid.Proofs.Registry.Bijection
import BrowserGrid.Proofs.Registry.Debts
import BrowserGrid.Proofs.Registry.Registered

/-!
# Whose pod a teardown deletes

The teardown of a node deletes its pod.  Proxies are told apart by their identity and not by their
pod, so a registered proxy may stand for the pod of one whose teardown is under way: one with
another identity, or one with the same identity that was registered after the teardown had begun,
and no other (`System.torn_pod_live_iff`).  Two nodes that announce themselves from two ports of one
address are two proxies of one pod, and the removal of one deletes the pod of the other
(`System.live_pod_torn`).
-/

namespace BrowserGrid.Registry

variable {ω : Type} {s : Setting ω}

/-! ### Whom a registration registers -/

/-- The proxy that a registration under way is to register. -/
def Call.newcomer? : Call ω → Option (Proxy ω)
  | .clearing _ new | .preparing new => some new
  | _ => none

theorem Call.newcomer?_eq_none {c : Call ω} (h : c.identity? = none) : c.newcomer? = none := by
  cases c with
  | clearing | preparing => cases h
  | discarding | removing | releasing | forcing | returning | retiring | stopping => rfl

/-- An operation that is to register a proxy is its registration. -/
theorem start_newcomer {callers : Callers} {r : Registry ω} {memory : ω} {op : Operation ω}
    {call : Call ω} (h : (op.start s callers r memory).next = .waits call) {p : Proxy ω}
    (hp : call.newcomer? = some p) : op = .add p := by
  have hbegins := start_begins s callers r memory op
  generalize op.start s callers r memory = turn at hbegins h
  cases hbegins with
  | refused | missing | vacant | broken | swept | halted => cases h
  | staged new =>
    cases h
    exact congrArg Operation.add (Option.some.inj hp)
  | replaced new =>
    cases h
    split at hp <;> exact congrArg Operation.add (Option.some.inj hp)
  | removed | occupied | returning | stopped =>
    cases h
    cases hp
  | released key reason =>
    have hnone := releaseTurn_identity (fun _ _ => rfl) (fun _ _ h => by cases h) h
    rw [Call.newcomer?_eq_none hnone] at hp
    cases hp

theorem resume_newcomer {r : Registry ω} {memory : ω} {prepared : Bool} {c call : Call ω}
    (h : (c.resume r memory prepared).next = .waits call) {p : Proxy ω}
    (hp : call.newcomer? = some p) : c.newcomer? = some p := by
  cases c with
  | clearing stale new =>
    cases h
    exact hp
  | preparing new =>
    unfold Call.resume at h
    dsimp only at h
    split at h <;> cases h
    cases hp
  | forcing key reason =>
    have hnone := releaseTurn_identity (fun _ _ => rfl) (fun _ _ h => by cases h) h
    rw [Call.newcomer?_eq_none hnone] at hp
    cases hp
  | returning keys toProvision =>
    cases keys with
    | nil => cases h
    | cons key keys =>
      have hnone := releaseTurn_identity (fun _ _ => rfl) (fun _ _ => afterReturn_identity) h
      rw [Call.newcomer?_eq_none hnone] at hp
      cases hp
  | retiring spent keys toProvision =>
    rw [Call.newcomer?_eq_none (afterReturn_identity h)] at hp
    cases hp
  | discarding | removing | releasing | stopping => cases h

namespace System

variable {σ τ : System ω}

/-! ### Registered since a teardown began -/

/-- Whoever is registered under an identity was registered after an operation had begun to wait. -/
def RegisteredSince (σ : System ω) (c : Underway ω) (id : ProxyId) : Prop :=
  ∃ earlier later, σ.history = earlier ++ .paused c.ticket c.operation c.call :: later ∧
    ∀ p, σ.registry.live.proxy? id = some p →
      ∃ ticket, .answered ticket (.add p) (.added true) ∈ later

theorem RegisteredSince.later {c : Underway ω} {id : ProxyId} (h : σ.RegisteredSince c id)
    {events : List (Event ω)} (hhistory : τ.history = σ.history ++ events)
    (hlive : ∀ p, τ.registry.live.proxy? id = some p → σ.registry.live.proxy? id = some p ∨
      ∃ ticket, .answered ticket (.add p) (.added true) ∈ events) : τ.RegisteredSince c id := by
  obtain ⟨earlier, later, hσ, hsince⟩ := h
  refine ⟨earlier, later ++ events, by rw [hhistory, hσ]; simp, fun p hp => ?_⟩
  rcases hlive p hp with hp | ⟨ticket, hticket⟩
  · obtain ⟨ticket, hticket⟩ := hsince p hp
    exact ⟨ticket, List.mem_append_left _ hticket⟩
  · exact ⟨ticket, List.mem_append_right _ hticket⟩

/-- An operation begins to wait while nothing is registered under an identity. -/
theorem RegisteredSince.of_events {turn : Turn ω} {ticket : Nat} {op : Operation ω} {call : Call ω}
    {id : ProxyId} (hhistory : τ.history = σ.history ++ turn.events ticket op)
    (hnext : turn.next = .waits call) (hnone : τ.registry.live.proxy? id = none) :
    τ.RegisteredSince ⟨ticket, op, call⟩ id := by
  refine ⟨σ.history ++ turn.news.map (.reported ticket op), [], ?_, fun p hp => ?_⟩
  · rw [hhistory, Turn.events, hnext, ← List.append_assoc]
    rfl
  · rw [hnone] at hp
    cases hp

/-- The registry of `σ` is `Housed`, a call that is to register a proxy belongs to its `add`, and
whoever is registered under the identity of a proxy that is being torn down is `RegisteredSince`. -/
structure Guarded (σ : System ω) : Prop where
  /-- The proxies are registered under their identities. -/
  housed : Housed σ.registry
  /-- An operation that is to register a proxy is its registration. -/
  fitting : ∀ c ∈ σ.calls, ∀ p, c.call.newcomer? = some p → c.operation = .add p
  /-- Whoever is registered under the identity of a proxy that is torn down came later. -/
  since : ∀ c ∈ σ.calls, ∀ x ∈ c.call.teardowns, σ.RegisteredSince c x.id

theorem Guarded.initial (memory : ω) : (System.initial memory).Guarded where
  housed := Housed.empty
  fitting := fun _ h => absurd h List.not_mem_nil
  since := fun _ h => absurd h List.not_mem_nil

/-- A step that is no section of an operation. -/
theorem Guarded.aside (hσ : σ.Guarded) {events : List (Event ω)}
    (hlive : τ.registry.live = σ.registry.live)
    (hstopped : τ.registry.stopped = σ.registry.stopped) (hcalls : τ.calls.Sublist σ.calls)
    (hhistory : τ.history = σ.history ++ events) : τ.Guarded where
  housed := ⟨by rw [hlive]; exact hσ.housed.keyed, by rw [hlive, hstopped]; exact hσ.housed.bare⟩
  fitting := fun c hc => hσ.fitting c (hcalls.subset hc)
  since := fun c hc x hx =>
    (hσ.since c (hcalls.subset hc) x hx).later hhistory fun p hp => .inl (hlive ▸ hp)

/-- A section of an operation. -/
theorem Guarded.section (hσ : σ.Guarded) {calls : List (Underway ω)}
    (hsub : calls.Sublist σ.calls) {turn : Turn ω} {ticket : Nat} {op : Operation ω}
    (hregistry : τ.registry = turn.registry)
    (hcalls : τ.calls = calls ++ turn.next.calls ticket op)
    (hhistory : τ.history = σ.history ++ turn.events ticket op) (hhoused : Housed turn.registry)
    (hunregistered : Unregistered turn)
    (hfitting : ∀ call p, turn.next = .waits call → call.newcomer? = some p → op = .add p)
    (hlive : ∀ id p, turn.registry.live.proxy? id = some p →
      σ.registry.live.proxy? id = some p ∨
        op = .add p ∧ turn.next = .answers (.added true)) : τ.Guarded where
  housed := hregistry ▸ hhoused
  fitting := fun c hc p hp => by
    rw [hcalls] at hc
    rcases List.mem_append.1 hc with hc | hc
    · exact hσ.fitting c (hsub.subset hc) p hp
    · rw [ticket_of_mem_calls hc] at hp ⊢
      exact hfitting c.call p (Next.eq_waits_of_mem hc) hp
  since := fun c hc x hx => by
    rw [hcalls] at hc
    rcases List.mem_append.1 hc with hc | hc
    · -- the teardown is older; whoever has been registered just now is in the history
      refine (hσ.since c (hsub.subset hc) x hx).later hhistory fun p hp => ?_
      rw [hregistry] at hp
      rcases hlive x.id p hp with hp | ⟨rfl, hanswer⟩
      · exact .inl hp
      · refine .inr ⟨ticket, List.mem_append_right _ (List.mem_singleton.2 ?_)⟩
        rw [hanswer]
        rfl
    · have hnext := Next.eq_waits_of_mem hc
      rw [ticket_of_mem_calls hc]
      refine .of_events hhistory hnext ?_
      rw [hregistry]
      exact hunregistered c.call hnext x hx

theorem Guarded.of_moved (h : Moved s σ τ) (hσ : σ.Guarded) : τ.Guarded := by
  cases h.involved with
  | apart h =>
    obtain ⟨events, hhistory, -⟩ := h.history
    exact hσ.aside h.live h.stopped (by rw [h.calls]) hhistory
  | abandoned c _ hregistry hcalls hhistory =>
    exact hσ.aside (by rw [hregistry]) (by rw [hregistry])
      (by rw [hcalls]; exact without_sublist σ c.ticket) hhistory
  | begun ticket op callers hregistry hcalls hhistory =>
    have hsection := start_section (s := s) callers σ.registry σ.memory op
    exact hσ.section (List.Sublist.refl _) hregistry hcalls hhistory (hsection.housed hσ.housed)
      (start_unregistered hσ.housed σ.memory op) (fun _ _ h hp => start_newcomer h hp)
      fun _ _ hp => .inl (hsection.proxy?_mono hp)
  | resumed c hc prepared hregistry hcalls hhistory =>
    refine hσ.section (without_sublist σ c.ticket) hregistry hcalls hhistory
      (resume_housed s hσ.housed σ.memory prepared c.call)
      (resume_unregistered hσ.housed σ.memory prepared c.call)
      (fun call p h hp => hσ.fitting c hc p (resume_newcomer h hp)) fun id p hp => ?_
    rcases resume_registers s hp with hp | ⟨hcall, _, _, hanswer⟩
    · exact .inl hp
    · exact .inr ⟨hσ.fitting c hc p (by rw [hcall]; rfl), hanswer⟩

theorem guarded_run (memory : ω) (actions : List (Action ω)) :
    ((System.initial memory).run s actions).Guarded :=
  run_induction (fun σ a hσ => hσ.of_moved (step_moved σ a)) (Guarded.initial memory) actions

/-! ### Whose pod is deleted -/

/-- While the teardown of a proxy is under way, a registered proxy stands for the same resource
exactly if one with another identity does, or one with the same identity that has been registered
since the teardown began. -/
theorem torn_pod_live_iff (memory : ω) (actions : List (Action ω)) {σ : System ω}
    (hσ : (initial memory).run s actions = σ) {c : Underway ω} (hc : c ∈ σ.calls) {x : Proxy ω}
    (hx : x ∈ c.call.teardowns) :
    (∃ id p, σ.registry.live.proxy? id = some p ∧ p.backing = x.backing) ↔
      (∃ id p, id ≠ x.id ∧ σ.registry.live.proxy? id = some p ∧ p.backing = x.backing) ∨
        ∃ p earlier later ticket, σ.registry.live.proxy? x.id = some p ∧ p.backing = x.backing ∧
          σ.history = earlier ++ .paused c.ticket c.operation c.call :: later ∧
          .answered ticket (.add p) (.added true) ∈ later := by
  have hguarded : σ.Guarded := hσ ▸ guarded_run memory actions
  constructor
  · rintro ⟨id, p, hp, hbacking⟩
    by_cases hid : id = x.id
    · -- nobody had this identity when the teardown began
      subst hid
      obtain ⟨earlier, later, hhistory, hsince⟩ := hguarded.since c hc x hx
      obtain ⟨ticket, hticket⟩ := hsince p hp
      exact .inr ⟨p, earlier, later, ticket, hp, hbacking, hhistory, hticket⟩
    · exact .inl ⟨id, p, hid, hp, hbacking⟩
  · rintro (⟨id, p, _, hp, hbacking⟩ | ⟨p, _, _, _, hp, hbacking, _⟩)
    · exact ⟨id, p, hp, hbacking⟩
    · exact ⟨x.id, p, hp, hbacking⟩

/-! ### Two nodes of one pod -/

/-- What the hub knows of the pod behind two nodes. -/
def sharedPod : NodeRegistration := ⟨"node-1", "10.1.0.1", none⟩

/-- The node at one port of the pod. -/
def firstNode : Proxy Versions := .node 0 "10.1.0.1:5555" sharedPod [default] {}

def secondNode : Proxy Versions := .node 1 "10.1.0.1:5556" sharedPod [default] {}

/-- Both nodes are registered, and one of them is removed. -/
def twinRun : List (Action Versions) :=
  [.begin (.add firstNode) {}, .resume 0 true, .begin (.add secondNode) {}, .resume 1 true,
    .begin (.remove "10.1.0.1:5555") {}]

/-- The system in which the teardown of the removed node is under way. -/
def twinSystem : System Versions := (initial Versions.empty).run countingSetting twinRun

theorem torn_pod_live_iff_twin :
    ∃ c ∈ twinSystem.calls, firstNode ∈ c.call.teardowns ∧
      ((∃ id p, id ≠ firstNode.id ∧ twinSystem.registry.live.proxy? id = some p ∧
          p.backing = firstNode.backing) ∨
        ∃ p earlier later ticket, twinSystem.registry.live.proxy? firstNode.id = some p ∧
          p.backing = firstNode.backing ∧
          twinSystem.history = earlier ++ .paused c.ticket c.operation c.call :: later ∧
          .answered ticket (.add p) (.added true) ∈ later) := by
  have hrun : (initial Versions.empty).run countingSetting twinRun = twinSystem := by
    rw [twinSystem]
  have hcall : (⟨2, .remove "10.1.0.1:5555", .removing firstNode⟩ : Underway Versions) ∈
      twinSystem.calls := List.mem_of_getElem? (i := 0) rfl
  have hx : firstNode ∈ (Call.removing firstNode).teardowns := List.mem_singleton_self _
  have hlive : twinSystem.registry.live.proxy? "10.1.0.1:5556" = some secondNode := rfl
  have hfirst : firstNode.backing = some "node-1" := rfl
  have hsecond : secondNode.backing = some "node-1" := rfl
  exact ⟨_, hcall, hx, (torn_pod_live_iff Versions.empty twinRun hrun hcall hx).1
    ⟨"10.1.0.1:5556", secondNode, hlive, hsecond.trans hfirst.symm⟩⟩

/-- A pod of the hub, at an address. -/
def servedPod : Pod where
  apiVersion := "v1"
  kind := "Pod"
  metadata := { name := some "node-1" }
  status := some { phase := some "Running", podIp := some "10.1.0.1" }

/-- A platform that runs this pod and nothing else. -/
def podPlatform (_ : Unit) : (op : Cluster.Operation) →
    Except ClusterError op.Reply × Unit
  | .listPods _ => (.ok [servedPod], ())
  | .listServices _ => (.ok [], ())
  | .getPod _ => (.ok none, ())
  | .createPod pod => (.ok pod, ())
  | .createService service => (.ok service, ())
  | .deletePod _ | .deleteService _ => (.ok (), ())

/-- What the hub finds out there about a node that announces itself from an address. -/
def announced (remoteHost : String) : Option NodeRegistration :=
  ((Cluster.Client.registerNode {} remoteHost remoteHost).run.run podPlatform ()).1.toOption

/-- Two nodes announce themselves from two ports of one address.  They are proxies of one pod, and
while the second is registered, the removal of the first waits for a teardown that deletes the
pod. -/
theorem live_pod_torn :
    Endpoint.authority? "http://10.1.0.1:5555" = some firstNode.id ∧
      Endpoint.authority? "http://10.1.0.1:5556" = some secondNode.id ∧
      announced "http://10.1.0.1:5555" = some sharedPod ∧
      announced "http://10.1.0.1:5556" = some sharedPod ∧
      (twinSystem.call? 2).map (·.call.teardowns.map (·.backing)) = some [some "node-1"] ∧
      (∃ next, (Cluster.Client.stopContainer "node-1").run = .call (.deletePod "node-1") next) ∧
      (twinSystem.registry.live.proxy? secondNode.id).map (·.backing) = some (some "node-1") := by
  refine ⟨by decide +kernel, by decide +kernel, by decide +kernel, by decide +kernel, rfl,
    ⟨_, rfl⟩, rfl⟩

end System

end BrowserGrid.Registry
