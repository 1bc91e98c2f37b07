import BrowserGrid.Proofs.Registry.PodLimit
import BrowserGrid.Simulation.Cluster
import Mathlib.Order.Bounds.Basic

/-!
# How far the pods go over the limit

While at most `k` tasks are poised at once, the pods exceed the limit by `k - 1` at most.  They come
to that many: requests are queued, one sweep has nodes started for all of them, the first tasks count
and submit one after the other until a single pod is missing, and then `k` tasks count before any of
them submits.  So the limit is kept exactly as long as no two tasks are poised at once.

* `Fleet.isGreatest_pods`: the most pods that there can be;
* `Fleet.limit_exceeded`: two pods where one is allowed.
-/

namespace BrowserGrid.Registry

open Cluster (Program)

variable {ω : Type} {s : Setting ω}

/-! ### A registry without proxies -/

/-- What a sweep does with requests for which nodes can be started, if there is no proxy. -/
theorem Sweep.visitAll_bare {callers : Callers} {ps : List PendingRequest} {w : Sweep ω}
    (hlive : w.live = KeyMap.empty)
    (hps : ∀ p ∈ ps, callers.present p.request.id = true ∧ p.provisioning = false ∧
      s.canProvision p.request.capabilities w.memory = true) :
    ∃ w', w.visitAll s callers ps = .ok w' ∧
      w'.toProvision = w.toProvision ++ ps.map (·.request) ∧ w'.undelivered = w.undelivered := by
  induction ps generalizing w with
  | nil => exact ⟨w, rfl, (List.append_nil _).symm, rfl⟩
  | cons p ps ih =>
    obtain ⟨hpresent, hflag, hable⟩ := hps p List.mem_cons_self
    have hfree : w.live.firstFree p.request.capabilities w.memory = (.nothing, w.memory) := by
      rw [hlive]
      rfl
    have hvisit : w.visit s callers p = .ok { w with
        remaining := w.remaining ++ [{ p with provisioning := true }]
        toProvision := w.toProvision ++ [p.request] } := by
      simp [visit, hpresent, hfree, keep, hflag, hable]
    obtain ⟨w', hw', htoProvision, hundelivered⟩ :=
      ih (w := { w with
        remaining := w.remaining ++ [{ p with provisioning := true }]
        toProvision := w.toProvision ++ [p.request] }) hlive
        fun p' hp' => hps p' (List.mem_cons_of_mem _ hp')
    refine ⟨w', ?_, ?_, hundelivered⟩
    · rw [visitAll, hvisit]
      exact hw'
    · rw [htoProvision, List.map_cons, List.append_assoc, List.singleton_append]

/-- A registry without proxies, in which so many callers wait for the same. -/
structure Queued (requested : Capabilities) (memory : ω) (N : Nat) (σ : System ω) : Prop where
  live : σ.registry.live = KeyMap.empty
  running : σ.registry.stopped = false
  memory_eq : σ.memory = memory
  length : σ.registry.pending.length = N
  waiting : ∀ p ∈ σ.registry.pending, isHeld σ.mailboxes p.request.id = true ∧
    p.provisioning = false ∧ p.request.capabilities = requested

variable {requested : Capabilities} {memory : ω} {N : Nat}

theorem Queued.initial (requested : Capabilities) (memory : ω) :
    Queued requested memory 0 (System.initial memory) :=
  ⟨rfl, rfl, rfl, rfl, fun _ h => absurd h List.not_mem_nil⟩

theorem Queued.submit {σ : System ω} (hσ : Queued requested memory N σ)
    (hable : s.canProvision requested memory = true) :
    Queued requested memory (N + 1) (σ.step s (.submit requested)) ∧
      ∃ id, (σ.step s (.submit requested)).history = σ.history ++ [.submitted (.ok id)] := by
  obtain ⟨hlive, hrunning, rfl, hlength, hwaiting⟩ := hσ
  have hnone : LiveProxies.anyServes σ.registry.live requested σ.memory = (.refused, σ.memory) := by
    rw [hlive]
    rfl
  have hsubmit : σ.registry.submit s requested σ.memory =
      (.ok (nextRequest s σ.registry requested).id,
        σ.registry.enqueue (nextRequest s σ.registry requested), σ.memory) := by
    simp [Registry.submit, hrunning, servable, hnone, hable]
  rw [System.step, System.afterSubmit, hsubmit]
  refine ⟨⟨hlive, hrunning, rfl, ?_, fun p hp => ?_⟩, _, rfl⟩
  · show List.length (σ.registry.pending ++ [_]) = N + 1
    rw [List.length_append, hlength, List.length_singleton]
  · show isHeld (σ.mailboxes ++ [_]) _ = true ∧ _
    rw [isHeld, List.any_append, Bool.or_eq_true]
    rcases List.mem_append.1 hp with hp | hp
    · obtain ⟨hheld, hflag, hrequested⟩ := hwaiting p hp
      exact ⟨.inl hheld, hflag, hrequested⟩
    · rw [List.mem_singleton.1 hp]
      exact ⟨.inr (by simp), rfl, rfl⟩

/-- A sweep has a node started for each of them. -/
theorem Queued.sweep {σ : System ω} (hσ : Queued requested memory N σ)
    (hable : s.canProvision requested memory = true) :
    ∃ requests : List Request, requests.length = N ∧ (∀ q ∈ requests, q.capabilities = requested) ∧
      (Operation.sweep.start s (({} : Departures).callers σ.mailboxes) σ.registry
        σ.memory).next = .answers (.swept requests) := by
  obtain ⟨hlive, hrunning, rfl, hlength, hwaiting⟩ := hσ
  have hperm : (σ.registry.pending.mergeSort before).Perm σ.registry.pending :=
    List.mergeSort_perm ..
  have hqueue : ∀ p ∈ σ.registry.pending.mergeSort before,
      (({} : Departures).callers σ.mailboxes).present p.request.id = true ∧
        p.provisioning = false ∧ s.canProvision p.request.capabilities σ.memory = true := by
    intro p hp
    obtain ⟨hheld, hflag, rfl⟩ := hwaiting p (hperm.mem_iff.1 hp)
    exact ⟨by simp [Departures.callers, hheld], hflag, hable⟩
  obtain ⟨w, hw, htoProvision, hundelivered⟩ :=
    Sweep.visitAll_bare (w := σ.registry.sweepStart σ.memory) hlive hqueue
  refine ⟨(σ.registry.pending.mergeSort before).map (·.request), ?_, fun q hq => ?_, ?_⟩
  · rw [List.length_map, hperm.length_eq, hlength]
  · obtain ⟨p, hp, rfl⟩ := List.mem_map.1 hq
    exact (hwaiting p (hperm.mem_iff.1 hp)).2.2
  · have hnext : (Operation.sweep.start s (({} : Departures).callers σ.mailboxes) σ.registry
        σ.memory).next = afterReturn w.undelivered w.toProvision := by
      rw [Operation.start]
      dsimp only
      rw [sweep_of_visitAll hrunning hw]
      rfl
    rw [hnext, hundelivered, htoProvision]
    rfl

theorem Queued.act_submit {ρ : Provisioning ω} (hρ : Queued requested memory N ρ.system)
    (hable : s.canProvision requested memory = true) :
    Queued requested memory (N + 1) (ρ.act s (.submit requested)).system ∧
      (ρ.act s (.submit requested)).errands = ρ.errands := by
  obtain ⟨hlater, id, hhistory⟩ := hρ.submit (s := s) hable
  refine ⟨hlater, ?_⟩
  show _ ++ Provisioning.sent (List.drop _ (System.history (System.step _ _ _))) = _
  rw [hhistory, List.drop_left]
  exact List.append_nil _

theorem Queued.act_sweep {ρ : Provisioning ω} (hρ : Queued requested memory N ρ.system)
    (hable : s.canProvision requested memory = true) :
    ∃ requests : List Request, requests.length = N ∧ (∀ q ∈ requests, q.capabilities = requested) ∧
      (ρ.act s (.begin .sweep {})).errands =
        ρ.errands ++ requests.map fun q => { order := ⟨ρ.system.begun, q⟩ } := by
  obtain ⟨requests, hlength, hrequested, hnext⟩ := hρ.sweep (s := s) hable
  refine ⟨requests, hlength, hrequested, ?_⟩
  have hplaced := carried_placed (Operation.sweep.start s
    (({} : Departures).callers ρ.system.mailboxes) ρ.system.registry ρ.system.memory)
    ρ.system.begun .sweep
  rw [hnext] at hplaced
  show _ ++ Provisioning.sent (List.drop _ (_ ++ _)) = _
  rw [List.drop_left, Provisioning.sent]
  show _ ++ (List.flatMap _ (Turn.events _ _ _)).map _ = _
  rw [show List.flatMap Event.placed _ = _ from hplaced, List.map_map]
  rfl

namespace Fleet

variable {plan : NodePlan} {k : Nat}

theorem exists_queued (hable : s.canProvision requested memory = true) (N : Nat) :
    ∃ φ, Attained plan s memory k φ ∧ Queued requested memory N φ.provisioning.system ∧
      φ.provisioning.errands = [] ∧ φ.launches = [] ∧ φ.pods = [] := by
  induction N with
  | zero => exact ⟨_, .initial plan s memory k, .initial requested memory, rfl, rfl, rfl⟩
  | succ N ih =>
    obtain ⟨φ, hφ, hqueued, herrands, hlaunches, hpods⟩ := ih
    obtain ⟨hlater, hsame⟩ := hqueued.act_submit (s := s) hable
    refine ⟨_, hφ.step (.act (.submit requested)) ?_, hlater, hsame.trans herrands, hlaunches,
      hpods⟩
    show φ.launches.countP _ ≤ k
    rw [hlaunches]
    exact Nat.zero_le k

/-- A sweep has a node started for each of them. -/
theorem exists_due (hable : s.canProvision requested memory = true) (N : Nat) :
    ∃ φ, Attained plan s memory k φ ∧ φ.provisioning.errands.length = N ∧
      (∀ e ∈ φ.provisioning.errands, e.stage = .due ∧ e.order.request.capabilities = requested) ∧
      φ.launches = [] ∧ φ.pods = [] := by
  obtain ⟨φ, hφ, hqueued, herrands, hlaunches, hpods⟩ := exists_queued hable N
  obtain ⟨requests, hlength, hrequested, hsent⟩ := hqueued.act_sweep (s := s) hable
  rw [herrands, List.nil_append] at hsent
  refine ⟨_, hφ.step (.act (.begin .sweep {})) ?_, ?_, fun e he => ?_, hlaunches, hpods⟩
  · show φ.launches.countP _ ≤ k
    rw [hlaunches]
    exact Nat.zero_le k
  · show List.length (Provisioning.errands (Provisioning.act _ _ _)) = N
    rw [hsent, List.length_map, hlength]
  · replace he : e ∈ (φ.provisioning.act s (.begin .sweep {})).errands := he
    rw [hsent] at he
    obtain ⟨q, hq, rfl⟩ := List.mem_map.1 he
    exact ⟨rfl, hrequested q hq⟩

/-! ### A line of tasks -/

/-- The pod for a request of this kind. -/
def linePod (plan : NodePlan) (requested : Capabilities) : Pod :=
  (plan.client.nodePod ⟨0⟩ none plan.provisioner.namePrefix plan.provisioner.image
    (plan.provisioner.nodeEnv plan.defaults plan.client.screenVar requested)
    plan.provisioner.nodePort).pod

/-- The calls of the provisioner in a line: `a` have started a pod each, the next `b` are poised and
the last `c` are about to count. -/
structure Lined (plan : NodePlan) (requested : Capabilities) (a b c : Nat) (φ : Fleet ω) :
    Prop where
  programs : φ.launches.map (·.program) =
    List.replicate a (.done true) ++ List.replicate b (submission (linePod plan requested)) ++
      List.replicate c (counting plan.client.ownerSelector plan.provisioner.maxContainers
        (linePod plan requested))
  length : φ.pods.length = a
  counted : ∀ pod ∈ φ.pods, Counted plan pod

variable {φ : Fleet ω} {a b c : Nat}

theorem Lined.poised_eq (h : Lined plan requested a b c φ) : φ.poised = b := by
  have hmap : φ.poised = (φ.launches.map (·.program)).countP isPoised := by
    rw [List.countP_map]
    rfl
  have hsubmission : isPoised (submission (linePod plan requested)) = true := rfl
  have hcounting : isPoised (counting plan.client.ownerSelector plan.provisioner.maxContainers
    (linePod plan requested)) = false := rfl
  have hdone : isPoised (.done true) = false := rfl
  rw [hmap, h.programs]
  simp [List.countP_append, List.countP_replicate, hsubmission, hcounting, hdone]

/-- An answer of the platform to a call of the provisioner somewhere in a line. -/
theorem answer_served (plan : NodePlan) {front back : List (Program Bool)} {op : Cluster.Operation}
    {next : Except ClusterError op.Reply → Program Bool}
    (h : φ.launches.map (·.program) = front ++ .call op next :: back) :
    (φ.answer plan front.length .served).launches.map (·.program) =
        front ++ next (.ok (plan.platform.perform φ.pods op).1) :: back ∧
      (φ.answer plan front.length .served).pods = (plan.platform.perform φ.pods op).2 := by
  obtain ⟨before, after, hlaunches, rfl, hafter⟩ := List.map_eq_append_iff.1 h
  obtain ⟨⟨task, _⟩, after, rfl, rfl, rfl⟩ := List.map_eq_cons_iff.1 hafter
  have hget : φ.launches[(before.map (·.program)).length]? = some ⟨task, .call op next⟩ := by
    rw [hlaunches, List.length_map, List.getElem?_append_right (Nat.le_refl _), Nat.sub_self]
    rfl
  unfold Fleet.answer
  rw [hget]
  refine ⟨?_, rfl⟩
  show List.map _ (φ.launches.set _ _) = _
  rw [hlaunches, List.length_map, List.set_append_right _ _ (Nat.le_refl _), Nat.sub_self,
    List.map_append]
  rfl

/-- The next task counts, and there are fewer pods than the limit. -/
theorem Lined.count (h : Lined plan requested a b (c + 1) φ)
    (hlt : a < plan.provisioner.maxContainers) :
    Lined plan requested a (b + 1) c (φ.answer plan (a + b) .served) := by
  have hprograms := h.programs
  rw [List.replicate_succ, counting] at hprograms
  have hserved := answer_served plan hprograms
  rw [List.length_append, List.length_replicate, List.length_replicate] at hserved
  obtain ⟨hlater, hpods⟩ := hserved
  have hpods : (φ.answer plan (a + b) .served).pods = φ.pods := hpods
  have hfound : φ.pods.filter (fun pod => plan.platform.selects plan.client.ownerSelector
      pod.metadata.labels) = φ.pods := List.filter_eq_self.2 h.counted
  have hnext : afterCount plan.provisioner.maxContainers (linePod plan requested)
      (.ok (plan.platform.perform φ.pods (.listPods plan.client.ownerSelector)).1) =
        submission (linePod plan requested) := by
    show ite (_ ≤ List.length (φ.pods.filter _)) _ _ = _
    rw [hfound, h.length, if_neg (Nat.not_le.2 hlt)]
  refine ⟨?_, hpods ▸ h.length, hpods ▸ h.counted⟩
  rw [hlater, hnext, List.replicate_succ', ← List.append_assoc, List.append_assoc _ [_],
    List.singleton_append]
  rfl

/-- The first of the poised tasks submits its pod. -/
theorem Lined.submit (h : Lined plan requested a (b + 1) c φ)
    (hpod : Counted plan (linePod plan requested)) :
    Lined plan requested (a + 1) b c (φ.answer plan a .served) := by
  have hprograms := h.programs
  rw [List.replicate_succ, List.append_assoc, List.cons_append, submission] at hprograms
  have hserved := answer_served plan hprograms
  rw [List.length_replicate] at hserved
  obtain ⟨hlater, hpods⟩ := hserved
  have hpods : (φ.answer plan a .served).pods =
      φ.pods ++ [plan.platform.host φ.pods (linePod plan requested)] := hpods
  refine ⟨?_, ?_, fun pod hmem => ?_⟩
  · rw [hlater, List.replicate_succ', List.append_assoc, List.append_assoc, List.singleton_append]
    rfl
  · rw [hpods, List.length_append, h.length, List.length_singleton]
  · rw [hpods] at hmem
    rcases List.mem_append.1 hmem with hmem | hmem
    · exact h.counted pod hmem
    · rw [List.mem_singleton.1 hmem, Counted, plan.platform.labels_host]
      exact hpod

/-- Deeds lead to a line while at most `k` tasks are poised at once. -/
def LineAttained (plan : NodePlan) (s : Setting ω) (memory : ω) (k : Nat)
    (requested : Capabilities) (a b c : Nat) : Prop :=
  ∃ φ, Attained plan s memory k φ ∧ Lined plan requested a b c φ

theorem LineAttained.count (h : LineAttained plan s memory k requested a b (c + 1))
    (hlt : a < plan.provisioner.maxContainers) (hk : b + 1 ≤ k) :
    LineAttained plan s memory k requested a (b + 1) c := by
  obtain ⟨φ, hφ, hlined⟩ := h
  have hlater := hlined.count hlt
  exact ⟨_, hφ.step (.answer (a + b) .served) (hlater.poised_eq.trans_le hk), hlater⟩

theorem LineAttained.submit (h : LineAttained plan s memory k requested a (b + 1) c)
    (hpod : Counted plan (linePod plan requested)) (hk : b ≤ k) :
    LineAttained plan s memory k requested (a + 1) b c := by
  obtain ⟨φ, hφ, hlined⟩ := h
  have hlater := hlined.submit hpod
  exact ⟨_, hφ.step (.answer a .served) (hlater.poised_eq.trans_le hk), hlater⟩

/-- A task joins the line. -/
theorem Lined.begin {order : Order} (h : Lined plan requested 0 0 c φ)
    (hdue : φ.provisioning.errands[c]? = some ⟨order, .due⟩)
    (hrequested : order.request.capabilities = requested) :
    Lined plan requested 0 0 (c + 1) (φ.begin plan c ⟨0⟩ none) ∧
      (φ.begin plan c ⟨0⟩ none).provisioning.errands =
        φ.provisioning.errands.modify c ({ · with stage := .running }) := by
  unfold Fleet.begin Provisioning.begin
  rw [hdue]
  refine ⟨⟨?_, h.length, h.counted⟩, rfl⟩
  show List.map _ (φ.launches ++ [_]) = _
  rw [List.map_append, h.programs, List.map_singleton, provision_eq, hrequested,
    List.replicate_succ', ← List.append_assoc]
  rfl

/-- The first tasks of a sweep have called the provisioner, and the others are due. -/
theorem exists_lined (hable : s.canProvision requested memory = true) {N c : Nat} (hc : c ≤ N) :
    ∃ φ, Attained plan s memory k φ ∧ Lined plan requested 0 0 c φ ∧
      φ.provisioning.errands.length = N ∧ ∀ i e, c ≤ i → φ.provisioning.errands[i]? = some e →
        e.stage = .due ∧ e.order.request.capabilities = requested := by
  induction c with
  | zero =>
    obtain ⟨φ, hφ, hlength, hdue, hlaunches, hpods⟩ := exists_due hable N
    refine ⟨φ, hφ, ⟨by rw [hlaunches]; rfl, by rw [hpods]; rfl, ?_⟩, hlength,
      fun i e _ he => hdue e (List.mem_of_getElem? he)⟩
    rw [hpods]
    exact fun _ h => absurd h List.not_mem_nil
  | succ c ih =>
    obtain ⟨φ, hφ, hlined, hlength, hdue⟩ := ih (by omega)
    have hget := List.getElem?_eq_getElem (l := φ.provisioning.errands) (i := c) (by omega)
    obtain ⟨hstage, hrequested⟩ := hdue c _ (Nat.le_refl c) hget
    obtain ⟨hlater, herrands⟩ := hlined.begin (hget.trans (congrArg some (by rw [← hstage])))
      hrequested
    refine ⟨_, hφ.step (.begin c ⟨0⟩ none) ?_, hlater, ?_, fun i e hi he => ?_⟩
    · -- whoever has only called is not poised yet
      exact hlater.poised_eq.trans_le (Nat.zero_le k)
    · show List.length (φ.begin plan c ⟨0⟩ none).provisioning.errands = N
      rw [herrands, List.length_modify, hlength]
    · replace he : (φ.begin plan c ⟨0⟩ none).provisioning.errands[i]? = some e := he
      rw [herrands, List.getElem?_modify_ne _ _ (by omega)] at he
      exact hdue i e (by omega) he

theorem lineAttained_begin (hable : s.canProvision requested memory = true) (N : Nat) :
    LineAttained plan s memory k requested 0 0 N := by
  obtain ⟨φ, hφ, hlined, -⟩ := exists_lined hable (Nat.le_refl N)
  exact ⟨φ, hφ, hlined⟩

/-- One task after the other counts and submits. -/
theorem LineAttained.one_by_one (hpod : Counted plan (linePod plan requested)) (hk : 1 ≤ k)
    (hle : a ≤ plan.provisioner.maxContainers)
    (h : LineAttained plan s memory k requested 0 0 (a + c)) :
    LineAttained plan s memory k requested a 0 c := by
  induction a generalizing c with
  | zero => rwa [Nat.zero_add] at h
  | succ a ih =>
    have hprevious := ih (c := c + 1) (by omega) (by rwa [Nat.add_right_comm] at h)
    exact (hprevious.count (by omega) hk).submit hpod (Nat.zero_le k)

/-- So many tasks count before any of them submits. -/
theorem LineAttained.all_count (hlt : a < plan.provisioner.maxContainers) (hk : b ≤ k)
    (h : LineAttained plan s memory k requested a 0 (b + c)) :
    LineAttained plan s memory k requested a b c := by
  induction b generalizing c with
  | zero => rwa [Nat.zero_add] at h
  | succ b ih =>
    have hprevious := ih (c := c + 1) (by omega) (by rwa [Nat.add_right_comm] at h)
    exact hprevious.count hlt hk

theorem LineAttained.all_submit (hpod : Counted plan (linePod plan requested)) (hk : b ≤ k)
    (h : LineAttained plan s memory k requested a b c) :
    LineAttained plan s memory k requested (a + b) 0 c := by
  induction b generalizing a with
  | zero => exact h
  | succ b ih =>
    have hlater := ih (a := a + 1) (by omega) (h.submit hpod (by omega))
    rwa [Nat.add_right_comm] at hlater

/-! ### The most pods -/

/-- A registry whose nodes are started by a provisioner. -/
def startingSetting (plan : NodePlan) : Setting Versions :=
  { (countingSetting : Setting Versions) with
    canProvision := fun requested versions => plan.provisioner.canProvision versions requested }

/-- The nodes have been seen to run this browser. -/
def seenBrowser : Versions := .ofList [("chrome", "")]

def wantsBrowser : Capabilities := Capabilities.empty.insert "browserName" (.str "chrome")

theorem startingSetting_canProvision (hlimit : 1 ≤ plan.provisioner.maxContainers) :
    (startingSetting plan).canProvision wantsBrowser seenBrowser = true := by
  have hserves : seenBrowser.canServe wantsBrowser = true := by decide +kernel
  simp only [startingSetting, Provisioner.canProvision, hserves, Bool.and_true, decide_eq_true_eq]
  exact hlimit

/-- While at most `k` tasks are poised at once, there are at most `k - 1` pods more than the limit
allows, and there are runs with that many; if the limit is zero, there are none. -/
theorem isGreatest_pods
    (hselects : ∀ labels, plan.platform.selects plan.client.ownerSelector labels =
      (labels.get? plan.client.ownershipLabel == some plan.client.ownershipValue))
    (happ : plan.client.ownershipLabel ≠ "app")
    (hslot : plan.client.ownershipLabel ≠ plan.client.slotLabel) :
    IsGreatest {n | ∃ (s : Setting Versions) (memory : Versions)
        (deeds : List (FleetDeed Versions)),
      (s.canProvision = fun requested versions =>
        plan.provisioner.canProvision versions requested) ∧
      (∀ earlier, earlier <+: deeds → ((initial memory).run plan s earlier).poised ≤ k) ∧
      ((initial memory).run plan s deeds).pods.length = n}
      (mostPods plan.provisioner.maxContainers k) := by
  have hfinds := findsOwn hselects happ hslot
  have hpod : Counted plan (linePod plan wantsBrowser) := hfinds ..
  constructor
  · rw [mostPods]
    split
    case isTrue =>
      refine ⟨startingSetting plan, seenBrowser, [], rfl, fun earlier h => ?_, rfl⟩
      rw [List.prefix_nil.1 h]
      exact Nat.zero_le k
    case isFalse hsome =>
      have hlimit : 1 ≤ plan.provisioner.maxContainers := by omega
      have hqueue : LineAttained plan (startingSetting plan) seenBrowser k wantsBrowser 0 0
          (plan.provisioner.maxContainers - 1 + (k + 0)) :=
        lineAttained_begin (startingSetting_canProvision hlimit) _
      -- one pod is missing when `k` tasks count
      have hmissing := hqueue.one_by_one hpod (by omega) (Nat.sub_le _ 1)
      have hpoised := hmissing.all_count (by omega) (Nat.le_refl k)
      obtain ⟨φ, ⟨deeds, rfl, hdeeds⟩, hlined⟩ := hpoised.all_submit hpod (Nat.le_refl k)
      refine ⟨startingSetting plan, seenBrowser, deeds, rfl, hdeeds, ?_⟩
      rw [hlined.length]
      omega
  · rintro n ⟨s, memory, deeds, -, hdeeds, rfl⟩
    exact Attained.pods_le ⟨deeds, rfl, hdeeds⟩ hfinds

/-- A platform that names pods by their number. -/
def numberingPlatform : Platform where
  selects := Simulation.SimCluster.selects
  host := fun pods pod => (({ created := pods.length } : Simulation.SimCluster).createPod pod).1
  labels_host := fun _ _ => rfl

/-- One pod is allowed. -/
def singlePlan : NodePlan where
  provisioner :=
    { image := "node:latest", namePrefix := "node", maxContainers := 1,
      hubUrl := "http://hub:4444", screenPort := 5900, nodePort := some 5555 }
  client := {}
  defaults := {}
  platform := numberingPlatform

theorem isGreatest_pods_single :
    singlePlan.client.ownershipLabel ≠ "app" ∧
      singlePlan.client.ownershipLabel ≠ singlePlan.client.slotLabel ∧
      IsGreatest {n | ∃ (s : Setting Versions) (memory : Versions)
          (deeds : List (FleetDeed Versions)),
        (s.canProvision = fun requested versions =>
          singlePlan.provisioner.canProvision versions requested) ∧
        (∀ earlier, earlier <+: deeds → ((initial memory).run singlePlan s earlier).poised ≤ 2) ∧
        ((initial memory).run singlePlan s deeds).pods.length = n} 2 := by
  have happ : singlePlan.client.ownershipLabel ≠ "app" := by decide
  have hslot : singlePlan.client.ownershipLabel ≠ singlePlan.client.slotLabel := by decide
  have hselects : ∀ labels, singlePlan.platform.selects singlePlan.client.ownerSelector labels =
      (labels.get? singlePlan.client.ownershipLabel == some singlePlan.client.ownershipValue) :=
    fun _ => rfl
  exact ⟨happ, hslot, isGreatest_pods hselects happ hslot⟩

/-! ### The limit exceeded -/

/-- Two requests, and a sweep that has nodes started for both. -/
def pairDeeds : List (FleetDeed Versions) :=
  [.act (.submit wantsBrowser), .act (.submit wantsBrowser), .act (.begin .sweep {})]

/-- Both tasks count before either submits. -/
def racingDeeds : List (FleetDeed Versions) :=
  [.begin 0 ⟨0⟩ none, .begin 1 ⟨1⟩ none, .answer 0 .served, .answer 1 .served, .answer 0 .served,
    .answer 1 .served]

/-- One task counts and submits, then the other. -/
def orderlyDeeds : List (FleetDeed Versions) :=
  [.begin 0 ⟨0⟩ none, .answer 0 .served, .answer 0 .served, .begin 1 ⟨1⟩ none, .answer 1 .served,
    .answer 1 .served]

/-- One pod is allowed, and the label of the owner has the place of another one. -/
def collidingPlan : NodePlan :=
  { singlePlan with client := { ownershipLabel := "app" } }

theorem run_pairDeeds (plan : NodePlan) (hlimit : 1 ≤ plan.provisioner.maxContainers) :
    ∃ ρ first second, (initial seenBrowser).run plan (startingSetting plan) pairDeeds =
        { provisioning := ρ } ∧ ρ.errands = [{ order := first }, { order := second }] := by
  have hable := startingSetting_canProvision hlimit
  obtain ⟨hone, hnone⟩ :=
    Queued.act_submit (ρ := .initial seenBrowser) (.initial wantsBrowser seenBrowser) hable
  obtain ⟨htwo, hsame⟩ := hone.act_submit hable
  obtain ⟨requests, hlength, -, hsent⟩ := htwo.act_sweep hable
  obtain ⟨first, second, rfl⟩ := List.length_eq_two.1 hlength
  rw [hsame, hnone] at hsent
  exact ⟨_, _, _, rfl, hsent⟩

/-- Where two tasks are poised at once, there are two pods and not one; and also where they are not,
if another label of a pod takes the place of the owner's. -/
theorem limit_exceeded :
    singlePlan.provisioner.maxContainers = 1 ∧ collidingPlan.provisioner.maxContainers = 1 ∧
      ((initial seenBrowser).run singlePlan (startingSetting singlePlan)
        (pairDeeds ++ racingDeeds)).pods.length = 2 ∧
      ((initial seenBrowser).run collidingPlan (startingSetting collidingPlan)
        (pairDeeds ++ orderlyDeeds)).pods.length = 2 := by
  have happend : ∀ (plan : NodePlan) (deeds : List (FleetDeed Versions)),
      (initial seenBrowser).run plan (startingSetting plan) (pairDeeds ++ deeds) =
        ((initial seenBrowser).run plan (startingSetting plan) pairDeeds).run plan
          (startingSetting plan) deeds := fun _ _ => List.foldl_append
  refine ⟨rfl, rfl, ?_, ?_⟩
  · obtain ⟨⟨_, _, _⟩, _, _, hpair, rfl⟩ := run_pairDeeds singlePlan (Nat.le_refl 1)
    rw [happend, hpair]
    rfl
  · obtain ⟨⟨_, _, _⟩, _, _, hpair, rfl⟩ := run_pairDeeds collidingPlan (Nat.le_refl 1)
    rw [happend, hpair]
    rfl

end Fleet

end BrowserGrid.Registry
