import BrowserGrid.Cluster.Provisioning
import BrowserGrid.Proofs.Registry.Provisioning
import Mathlib.Data.List.Infix

/-!
# How many pods there are

A task that starts a node counts the pods of the hub and, if the limit allows it, submits one more.
These are two calls of the platform, each a step of its own, and whatever the other tasks do may come
between them.  A `Fleet` is a registry with its tasks, the calls of the provisioner that are under
way and the pods; the lists of `FleetDeed`s are all the ways in which they can go on side by side.

A task is poised between its count and its submission.  Pods and poised tasks together only become
more when a task finds fewer pods than the limit, so the pods exceed the limit by less than the most
tasks that are ever poised at once (`Fleet.Attained.pods_le`).
-/

namespace BrowserGrid.Registry

open Cluster (Client Program)

variable {ω : Type} {s : Setting ω}

/-! ### The platform -/

/-- The platform that runs the pods. -/
structure Platform where
  /-- Whether labels satisfy a selector. -/
  selects : String → KeyMap String → Bool
  /-- What becomes of a pod that is submitted, where these pods run already. -/
  host : List Pod → Pod → Pod
  /-- A pod keeps the labels with which it is submitted. -/
  labels_host : ∀ pods pod, (host pods pod).metadata.labels = pod.metadata.labels

/-- What becomes of a call of the platform. -/
inductive Platform.Outcome where
  /-- It is carried out. -/
  | served
  /-- It is carried out, but the answer is that it has failed. -/
  | misreported (e : ClusterError)
  /-- It fails. -/
  | failed (e : ClusterError)

namespace Platform

/-- Carry out a call where these pods run. -/
def perform (platform : Platform) (pods : List Pod) : (op : Cluster.Operation) → op.Reply × List Pod
  | .createPod pod => (platform.host pods pod, pods ++ [platform.host pods pod])
  | .getPod name => (pods.find? (·.name? = some name), pods)
  | .deletePod name => ((), pods.filter (·.name? ≠ some name))
  | .listPods selector =>
    (pods.filter fun pod => platform.selects selector pod.metadata.labels, pods)
  | .createService service => (service, pods)
  | .deleteService _ => ((), pods)
  | .listServices _ => ([], pods)

/-- Answer a call. -/
def answer (platform : Platform) (pods : List Pod) (op : Cluster.Operation) :
    Outcome → Except ClusterError op.Reply × List Pod
  | .served => (.ok (platform.perform pods op).1, (platform.perform pods op).2)
  | .misreported e => (.error e, (platform.perform pods op).2)
  | .failed e => (.error e, pods)

end Platform

/-! ### Starting pods side by side -/

/-- With what nodes are started. -/
structure NodePlan where
  provisioner : Provisioner
  client : Client
  defaults : FleetDefaults
  platform : Platform

/-- A call of the provisioner. -/
structure Launch where
  /-- The task that has made it. -/
  task : Nat
  /-- What it has still to do. -/
  program : Program Bool

/-- A registry, the tasks that have nodes started, and the pods. -/
structure Fleet (ω : Type) where
  provisioning : Provisioning ω
  /-- The calls of the provisioner that are under way. -/
  launches : List Launch := []
  /-- The pods that the hub has submitted and that are still there. -/
  pods : List Pod := []

/-- What can happen. -/
inductive FleetDeed (ω : Type) where
  /-- Something happens to the registry. -/
  | act (a : Action ω)
  /-- A task calls the provisioner; its pod would have this label and see this folder. -/
  | begin (n : Nat) (slot : Uuid) (sharedFolder : Option SharedFolder)
  /-- The platform answers a call of the provisioner. -/
  | answer (i : Nat) (outcome : Platform.Outcome)
  /-- A call of the provisioner returns. -/
  | finish (i : Nat)
  /-- A task reports a failure. -/
  | report (n : Nat)
  /-- A pod goes away, whoever has deleted it. -/
  | lose (i : Nat)

namespace Fleet

/-- Nothing has happened. -/
def initial (memory : ω) : Fleet ω := { provisioning := .initial memory }

/-- A task calls the provisioner. -/
def begin (plan : NodePlan) (φ : Fleet ω) (n : Nat) (slot : Uuid)
    (sharedFolder : Option SharedFolder) : Fleet ω :=
  match φ.provisioning.errands[n]? with
  | some ⟨order, .due⟩ =>
    { φ with
      provisioning := φ.provisioning.begin n
      launches := φ.launches ++ [⟨n, plan.provisioner.provision plan.client plan.defaults slot
        sharedFolder order.request⟩] }
  | _ => φ

/-- The platform answers a call of the provisioner. -/
def answer (plan : NodePlan) (φ : Fleet ω) (i : Nat) (outcome : Platform.Outcome) : Fleet ω :=
  match φ.launches[i]? with
  | some ⟨task, .call op next⟩ =>
    let (reply, pods) := plan.platform.answer φ.pods op outcome
    { φ with launches := φ.launches.set i ⟨task, next reply⟩, pods }
  | _ => φ

/-- A call of the provisioner returns. -/
def finish (φ : Fleet ω) (i : Nat) : Fleet ω :=
  match φ.launches[i]? with
  | some ⟨task, .done succeeded⟩ =>
    { φ with
      provisioning := φ.provisioning.finish task succeeded
      launches := φ.launches.eraseIdx i }
  | _ => φ

/-- Let something happen; a deed that is not possible changes nothing. -/
def step (plan : NodePlan) (s : Setting ω) (φ : Fleet ω) : FleetDeed ω → Fleet ω
  | .act a => { φ with provisioning := φ.provisioning.step s (.act a) }
  | .begin n slot sharedFolder => φ.begin plan n slot sharedFolder
  | .answer i outcome => φ.answer plan i outcome
  | .finish i => φ.finish i
  | .report n => { φ with provisioning := φ.provisioning.step s (.report n) }
  | .lose i => { φ with pods := φ.pods.eraseIdx i }

/-- Let one thing happen after the other. -/
def run (plan : NodePlan) (s : Setting ω) (φ : Fleet ω) (deeds : List (FleetDeed ω)) : Fleet ω :=
  deeds.foldl (step plan s) φ

/-- Whether a call of the provisioner is about to submit a pod. -/
def isPoised : Program Bool → Bool
  | .call (.createPod _) _ => true
  | _ => false

/-- How many tasks have counted the pods and are about to submit one. -/
def poised (φ : Fleet ω) : Nat := φ.launches.countP (isPoised ·.program)

/-! ### A call of the provisioner -/

/-- Submit a pod, and say whether that succeeded. -/
def submission (pod : Pod) : Program Bool :=
  .call (.createPod pod) fun
    | .ok _ => .done true
    | .error _ => .done false

/-- Submit a pod unless too many are found. -/
def afterCount (limit : Nat) (pod : Pod) {selector : String} :
    Except ClusterError (Cluster.Operation.listPods selector).Reply → Program Bool
  | .error _ => .done false
  | .ok (found : List Pod) => if limit ≤ found.length then .done false else submission pod

/-- Count the pods that a selector picks, and submit one unless there are too many. -/
def counting (selector : String) (limit : Nat) (pod : Pod) : Program Bool :=
  .call (.listPods selector) (afterCount limit pod)

theorem createContainer_eq (c : Client) (slot : Uuid) (sharedFolder : Option SharedFolder)
    (namePrefix image : String) (env : KeyMap String) (nodePort : Option Nat) :
    c.createContainer slot sharedFolder namePrefix image env nodePort =
      submission (c.nodePod slot sharedFolder namePrefix image env nodePort).pod := by
  refine congrArg (Program.call _) (funext fun reply => ?_)
  cases reply with
  | error e => rfl
  | ok created => rfl

theorem provision_eq (p : Provisioner) (c : Client) (defaults : FleetDefaults) (slot : Uuid)
    (sharedFolder : Option SharedFolder) (request : Request) :
    p.provision c defaults slot sharedFolder request =
      counting c.ownerSelector p.maxContainers (c.nodePod slot sharedFolder p.namePrefix p.image
        (p.nodeEnv defaults c.screenVar request.capabilities) p.nodePort).pod := by
  refine congrArg (Program.call _) (funext fun reply => ?_)
  cases reply with
  | error e => rfl
  | ok found =>
    simp only [afterCount, ← createContainer_eq]
    rfl

/-! ### Counting -/

/-- Whether the hub finds a pod when it counts. -/
def Counted (plan : NodePlan) (pod : Pod) : Prop :=
  plan.platform.selects plan.client.ownerSelector pod.metadata.labels = true

/-- The hub finds all pods that it submits. -/
def FindsOwn (plan : NodePlan) : Prop :=
  ∀ slot sharedFolder namePrefix image env nodePort,
    Counted plan (plan.client.nodePod slot sharedFolder namePrefix image env nodePort).pod

/-- The hub finds its pods unless another label of theirs takes the place of the owner's. -/
theorem findsOwn {plan : NodePlan}
    (hselects : ∀ labels, plan.platform.selects plan.client.ownerSelector labels =
      (labels.get? plan.client.ownershipLabel == some plan.client.ownershipValue))
    (happ : plan.client.ownershipLabel ≠ "app")
    (hslot : plan.client.ownershipLabel ≠ plan.client.slotLabel) : FindsOwn plan := by
  intro slot sharedFolder namePrefix image env nodePort
  show plan.platform.selects _ (plan.client.nodeLabels slot) = true
  rw [hselects, Client.nodeLabels, KeyMap.get?_insert, if_neg hslot, KeyMap.get?_insert,
    if_neg happ, Client.ownerLabels, KeyMap.singleton, KeyMap.get?_insert, if_pos rfl]
  exact beq_self_eq_true _

/-- The programs that a call of the provisioner comes through: `counting`, `submission` and `.done`.
-/
inductive Phase (plan : NodePlan) : Program Bool → Prop where
  /-- It is about to count the pods. -/
  | counting {pod : Pod} (hpod : Counted plan pod) :
    Phase plan (counting plan.client.ownerSelector plan.provisioner.maxContainers pod)
  /-- It is about to submit a pod. -/
  | submitting {pod : Pod} (hpod : Counted plan pod) : Phase plan (submission pod)
  /-- It is about to return. -/
  | returning (succeeded : Bool) : Phase plan (.done succeeded)

/-- The program of a call goes from `old` to `new` with an answer of the platform, and `pods` become
the list in the index: told by `isPoised` of both, and by whether a pod was submitted. -/
inductive Answered (plan : NodePlan) (pods : List Pod) (old new : Program Bool) :
    List Pod → Prop where
  /-- There are fewer pods than the limit. -/
  | counted (hold : isPoised old = false) (hnew : isPoised new = true)
    (hfew : pods.length < plan.provisioner.maxContainers) : Answered plan pods old new pods
  /-- A pod has been submitted. -/
  | submitted {pod : Pod} (hold : isPoised old = true) (hnew : isPoised new = false)
    (hpod : Counted plan pod) : Answered plan pods old new (pods ++ [pod])
  /-- There will be no pod. -/
  | ended (hnew : isPoised new = false) : Answered plan pods old new pods

theorem Phase.answered {plan : NodePlan} {pods : List Pod} (hpods : ∀ pod ∈ pods, Counted plan pod)
    {op : Cluster.Operation} {next : Except ClusterError op.Reply → Program Bool}
    (h : Phase plan (.call op next)) (outcome : Platform.Outcome) :
    Phase plan (next (plan.platform.answer pods op outcome).1) ∧
      Answered plan pods (.call op next) (next (plan.platform.answer pods op outcome).1)
        (plan.platform.answer pods op outcome).2 := by
  cases h with
  | @counting pod hpod =>
    cases outcome with
    | served =>
      have hfound : pods.filter (fun pod => plan.platform.selects plan.client.ownerSelector
          pod.metadata.labels) = pods := List.filter_eq_self.2 hpods
      show Phase plan (ite (_ ≤ List.length (pods.filter _)) _ _) ∧ Answered plan pods _
        (ite (_ ≤ List.length (pods.filter _)) _ _) pods
      rw [hfound]
      split
      · exact ⟨.returning false, .ended rfl⟩
      · rename_i hfew
        exact ⟨.submitting hpod, .counted rfl rfl (Nat.lt_of_not_le hfew)⟩
    | misreported e | failed e => exact ⟨.returning false, .ended rfl⟩
  | @submitting pod hpod =>
    have hhosted : Counted plan (plan.platform.host pods pod) := by
      rw [Counted, plan.platform.labels_host]
      exact hpod
    cases outcome with
    | served => exact ⟨.returning true, .submitted rfl rfl hhosted⟩
    | misreported e => exact ⟨.returning false, .submitted rfl rfl hhosted⟩
    | failed e => exact ⟨.returning false, .ended rfl⟩

/-! ### Pods and poised tasks -/

variable {plan : NodePlan} {φ φ' : Fleet ω} {k : Nat}

/-- The most pods that there can be while at most `k` tasks are poised at once: for each of them but
one, one more than the limit allows, but none if the limit is zero or no task may be poised. -/
def mostPods (limit k : Nat) : Nat := if limit = 0 ∨ k = 0 then 0 else limit + (k - 1)

/-- Every call is in a `Phase`, every pod is `Counted`, and the pods and the poised calls together
are at most `mostPods plan.provisioner.maxContainers k`. -/
structure Limited (plan : NodePlan) (k : Nat) (φ : Fleet ω) : Prop where
  phases : ∀ l ∈ φ.launches, Phase plan l.program
  counted : ∀ pod ∈ φ.pods, Counted plan pod
  few : φ.pods.length + φ.poised ≤ mostPods plan.provisioner.maxContainers k

theorem Limited.initial (memory : ω) : Limited plan k (Fleet.initial memory) where
  phases := fun _ h => absurd h List.not_mem_nil
  counted := fun _ h => absurd h List.not_mem_nil
  few := Nat.zero_le _

/-- A deed that makes none of the calls and of the pods. -/
theorem Limited.of_sublist (hφ : Limited plan k φ) (hlaunches : φ'.launches.Sublist φ.launches)
    (hpods : φ'.pods.Sublist φ.pods) : Limited plan k φ' where
  phases := fun l hl => hφ.phases l (hlaunches.subset hl)
  counted := fun pod hpod => hφ.counted pod (hpods.subset hpod)
  few := by
    have hfewer := hpods.length_le
    have hpoised : φ'.poised ≤ φ.poised := hlaunches.countP_le
    have hfew := hφ.few
    omega

theorem Limited.begin (hφ : Limited plan k φ) (hfinds : FindsOwn plan) (n : Nat) (slot : Uuid)
    (sharedFolder : Option SharedFolder) : Limited plan k (φ.begin plan n slot sharedFolder) := by
  unfold Fleet.begin
  split
  case h_2 => exact hφ
  rw [provision_eq]
  refine ⟨fun l hl => ?_, hφ.counted, ?_⟩
  · rcases List.mem_append.1 hl with hl | hl
    · exact hφ.phases l hl
    · rw [List.mem_singleton.1 hl]
      exact .counting (hfinds ..)
  · -- whoever is about to count is not poised
    show _ + List.countP _ (_ ++ [_]) ≤ _
    rw [List.countP_append]
    exact hφ.few

/-- A call of the provisioner has come further. -/
def advance (φ : Fleet ω) (i task : Nat) (program : Program Bool) (pods : List Pod) : Fleet ω :=
  { φ with launches := φ.launches.set i ⟨task, program⟩, pods }

theorem poised_advance {i task : Nat} {old : Program Bool}
    (hget : φ.launches[i]? = some ⟨task, old⟩) (new : Program Bool) (pods : List Pod) :
    (φ.advance i task new pods).poised + (if isPoised old then 1 else 0) =
      φ.poised + if isPoised new then 1 else 0 := by
  obtain ⟨hlt, hi⟩ := List.getElem?_eq_some_iff.1 hget
  have hset := List.countP_set (p := fun l => isPoised l.program) (a := ⟨task, new⟩) hlt
  have hle := List.boole_getElem_le_countP (p := fun l => isPoised l.program) hlt
  rw [hi] at hset hle
  simp only at hset hle
  rw [poised, advance, hset, poised]
  omega

/-- An answer of the platform: a task that has found fewer pods than the limit is one of those that
are poised now. -/
theorem Limited.advance (hφ : Limited plan k φ) {i task : Nat} {old new : Program Bool}
    {pods : List Pod} (hget : φ.launches[i]? = some ⟨task, old⟩) (hphase : Phase plan new)
    (h : Answered plan φ.pods old new pods) (hk : (φ.advance i task new pods).poised ≤ k) :
    Limited plan k (φ.advance i task new pods) := by
  have hpoised := poised_advance hget new pods
  have hfew := hφ.few
  constructor
  case phases =>
    intro l hl
    rcases List.mem_or_eq_of_mem_set hl with hl | rfl
    · exact hφ.phases l hl
    · exact hphase
  case counted =>
    intro pod hpod
    cases h with
    | counted | ended => exact hφ.counted pod hpod
    | @submitted submitted hold hnew hcounted =>
      rcases List.mem_append.1 hpod with hpod | hpod
      · exact hφ.counted pod hpod
      · rw [List.mem_singleton.1 hpod]
        exact hcounted
  case few =>
    -- a count that finds few pods poises one more call, which the limit and `k` leave room for; a
    -- submission turns a poised call into a pod
    show pods.length + _ ≤ _
    cases h with
    | counted hold hnew hlt =>
      rw [hold, hnew] at hpoised
      simp only [Bool.false_eq_true, if_false, if_true] at hpoised
      rw [mostPods, if_neg (by omega)]
      omega
    | submitted hold hnew =>
      rw [hold, hnew] at hpoised
      simp only [Bool.false_eq_true, if_false, if_true] at hpoised
      rw [List.length_append, List.length_singleton]
      omega
    | ended hnew =>
      rw [hnew] at hpoised
      simp only [Bool.false_eq_true, if_false] at hpoised
      omega

theorem Limited.answer (hφ : Limited plan k φ) (i : Nat) (outcome : Platform.Outcome)
    (hk : (φ.answer plan i outcome).poised ≤ k) : Limited plan k (φ.answer plan i outcome) := by
  unfold Fleet.answer at hk ⊢
  split at hk
  case h_1 task op next hget =>
    obtain ⟨hphase, hanswered⟩ :=
      (hφ.phases _ (List.mem_of_getElem? hget)).answered hφ.counted outcome
    exact hφ.advance hget hphase hanswered hk
  case h_2 => exact hφ

theorem Limited.finish (hφ : Limited plan k φ) (i : Nat) : Limited plan k (φ.finish i) := by
  unfold Fleet.finish
  split
  · exact hφ.of_sublist (List.eraseIdx_sublist ..) (List.Sublist.refl _)
  · exact hφ

theorem Limited.step (hφ : Limited plan k φ) (hfinds : FindsOwn plan) (x : FleetDeed ω)
    (hk : (φ.step plan s x).poised ≤ k) : Limited plan k (φ.step plan s x) := by
  cases x with
  | act | report => exact hφ.of_sublist (List.Sublist.refl _) (List.Sublist.refl _)
  | begin n slot sharedFolder => exact hφ.begin hfinds n slot sharedFolder
  | answer i outcome => exact hφ.answer i outcome hk
  | finish i => exact hφ.finish i
  | lose i => exact hφ.of_sublist (List.Sublist.refl _) (List.eraseIdx_sublist ..)

theorem run_concat (plan : NodePlan) (φ : Fleet ω) (deeds : List (FleetDeed ω)) (x : FleetDeed ω) :
    φ.run plan s (deeds ++ [x]) = (φ.run plan s deeds).step plan s x :=
  List.foldl_concat ..

/-- Some deeds lead from the initial fleet to `φ`, with at most `k` poised calls after each of their
prefixes. -/
def Attained (plan : NodePlan) (s : Setting ω) (memory : ω) (k : Nat) (φ : Fleet ω) : Prop :=
  ∃ deeds, (initial memory).run plan s deeds = φ ∧
    ∀ earlier, earlier <+: deeds → ((initial memory).run plan s earlier).poised ≤ k

theorem Attained.initial (plan : NodePlan) (s : Setting ω) (memory : ω) (k : Nat) :
    Attained plan s memory k (Fleet.initial memory) := by
  refine ⟨[], rfl, fun earlier h => ?_⟩
  rw [List.prefix_nil.1 h]
  exact Nat.zero_le k

theorem Attained.step {memory : ω} (h : Attained plan s memory k φ) (x : FleetDeed ω)
    (hk : (φ.step plan s x).poised ≤ k) : Attained plan s memory k (φ.step plan s x) := by
  obtain ⟨deeds, rfl, hdeeds⟩ := h
  refine ⟨deeds ++ [x], run_concat .., fun earlier hearlier => ?_⟩
  rcases List.prefix_concat_iff.1 hearlier with rfl | hearlier
  · rw [run_concat]
    exact hk
  · exact hdeeds earlier hearlier

theorem Attained.pods_le {memory : ω} (h : Attained plan s memory k φ) (hfinds : FindsOwn plan) :
    φ.pods.length ≤ mostPods plan.provisioner.maxContainers k := by
  obtain ⟨deeds, rfl, hk⟩ := h
  have hlimited : Limited plan k ((Fleet.initial memory).run plan s deeds) := by
    induction deeds using List.reverseRecOn with
    | nil => exact .initial memory
    | append_singleton deeds x ih =>
      have hlater := hk _ List.prefix_rfl
      rw [run_concat] at hlater ⊢
      exact (ih fun earlier h => hk earlier (h.trans (List.prefix_append ..))).step hfinds x hlater
  have hfew := hlimited.few
  omega

end Fleet

end BrowserGrid.Registry
