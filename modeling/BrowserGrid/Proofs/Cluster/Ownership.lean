import BrowserGrid.Proofs.Cluster.Cleanup
import BrowserGrid.Proofs.Cluster.Repetition

/-!
# What the hub recognises as its own

Pods and services get the owner's label first.  A service has no other, but on a pod the `app`
label and the label of its slot are put after it, each in the place of whatever has its key.  So a
pod keeps the owner's label only if neither of the two keys is that of the owner, or the value
happens to be the same (`keepsOwner`).

The hub counts its pods, looks up the pod behind a node, and cleans up by this label.  All three
find a pod that has kept it, and none finds one that has not (`Recognised`, `unrecognised_app`).
-/

namespace BrowserGrid.Cluster.Client

open Program

variable {σ : Type} {answer : σ → (op : Operation) → Except ClusterError op.Reply × σ}
  {P : Platform σ} {c : Client} {s s' : σ} {slot : Uuid} {sharedFolder : Option SharedFolder}
  {namePrefix image nodeName remoteHost ip name : String} {env : KeyMap String} {nodePort : Option Nat}
  {pod : Pod} {made service : Service}

/-! ### The owner's label -/

/-- Whether a pod keeps the owner's label: the label of its slot has the last word, and the `app`
label the one before. -/
def keepsOwner (c : Client) (slot : Uuid) : Bool :=
  if c.ownershipLabel = c.slotLabel then slot.text = c.ownershipValue
  else c.ownershipLabel ≠ "app" || c.appLabel = c.ownershipValue

theorem get?_nodeLabels_iff :
    (c.nodeLabels slot).get? c.ownershipLabel = some c.ownershipValue ↔
      c.keepsOwner slot = true := by
  rw [nodeLabels, KeyMap.get?_insert, KeyMap.get?_insert, ownerLabels, KeyMap.singleton,
    KeyMap.get?_insert, keepsOwner, if_pos rfl]
  -- the label that was put on last is looked at first
  split
  · simp
  · split
    · rename_i happ
      simp [happ]
    · rename_i happ
      simp [happ]

/-! ### What is submitted -/

/-- A node is submitted in one call, and what the platform answers is only told apart by success. -/
theorem createContainer_eq (c : Client) (slot : Uuid) (sharedFolder : Option SharedFolder)
    (namePrefix image : String) (env : KeyMap String) (nodePort : Option Nat) :
    c.createContainer slot sharedFolder namePrefix image env nodePort =
      .call (.createPod (c.nodePod slot sharedFolder namePrefix image env nodePort).pod)
        fun reply => .done reply.toBool :=
  congrArg (Program.call _) (funext fun
    | .ok _ => rfl
    | .error _ => rfl)

theorem createContainer_ok
    (h : run answer (c.createContainer slot sharedFolder namePrefix image env nodePort) s =
      (true, s')) :
    ∃ created, answer s (.createPod (c.nodePod slot sharedFolder namePrefix image env
      nodePort).pod) = (.ok created, s') := by
  rw [createContainer_eq] at h
  obtain ⟨hreply, rfl⟩ := Prod.mk.inj h
  cases hcreated : (answer s _).1 with
  | ok created => exact ⟨created, Prod.ext hcreated rfl⟩
  | error e =>
    rw [hcreated] at hreply
    nomatch hreply

theorem eq_of_createService_mem
    (h : .createService made ∈ calls answer (c.ensureService service).run s) : made = service := by
  rw [ensureService, mem_calls_bind] at h
  obtain h | ⟨services, -, h⟩ := h
  · cases mem_calls_perform.1 h
  · split at h
    · split at h
      · cases h
      · rw [mem_calls_bind] at h
        obtain h | ⟨_, -, h⟩ := h
        · cases mem_calls_perform.1 h
        · exact Operation.createService.inj (mem_calls_perform.1 h)
    · exact Operation.createService.inj (mem_calls_perform.1 h)

/-- A service that is submitted has the owner's label and no other. -/
theorem labels_of_createService_mem
    (h : .createService made ∈ calls answer (c.registerNode nodeName remoteHost).run s) :
    made.metadata.labels = c.ownerLabels := by
  cases hip : Endpoint.host? remoteHost with
  | none =>
    rw [registerNode_unparsed hip] at h
    nomatch h
  | some ip =>
    rw [registerNode_eq hip, mem_calls_bind] at h
    obtain h | ⟨pods, -, h⟩ := h
    · nomatch mem_calls_perform.1 h
    · rw [mem_calls_bind] at h
      obtain h | ⟨⟨name, wanted⟩, hresolved, h⟩ := h
      · nomatch h
      · obtain ⟨service, rfl, hensure⟩ := mem_calls_expose h
        obtain ⟨pod, -, hname, hwanted⟩ := resolve_ok hresolved
        obtain ⟨slot, port, -, rfl⟩ := wantedService_ok hname hwanted
        rw [eq_of_createService_mem hensure]
        rfl

/-! ### Counting, finding and deleting -/

/-- A pod with the labels of a node, and with an address that no other pod of the hub has. -/
structure Submitted (P : Platform σ) (c : Client) (s : σ) (slot : Uuid) (ip : String) (pod : Pod) :
    Prop where
  held : pod ∈ (P.holds s).pods
  labels : pod.metadata.labels = c.nodeLabels slot
  address : pod.ip? = some ip
  alone : ∀ other ∈ c.ownPods P (P.holds s), other.ip? = some ip → other = pod

section Serving

variable (hP : P.Serves) (hkey : Label.isKey c.ownershipLabel = true)
  (hvalue : Label.isValue c.ownershipValue = true)

include hP hkey hvalue

theorem selects_nodeLabels : P.selects c.ownerSelector (c.nodeLabels slot) = c.keepsOwner slot := by
  rw [Bool.eq_iff_iff, ← get?_nodeLabels_iff]
  exact hP.selectsLabels _ _ _ hkey hvalue

theorem readsOnly_runningContainers (s : σ) :
    ReadsOnly P c.runningContainers s (c.ownPods P (P.holds s)).length :=
  (readsOnly_listPods hP hkey hvalue s).bind fun _ _ => .pure _ _

/-- A node that is submitted is one pod more, and counts if it has kept the owner's label. -/
theorem createContainer_counted
    (h : run P.answer (c.createContainer slot sharedFolder namePrefix image env nodePort) s =
      (true, s')) :
    (∃ created ∈ (P.holds s').pods, created.name?.isSome = true ∧
      created.metadata.labels = c.nodeLabels slot) ∧
    (c.ownPods P (P.holds s')).length =
      (c.ownPods P (P.holds s)).length + if c.keepsOwner slot then 1 else 0 := by
  obtain ⟨created, hcreated⟩ := createContainer_ok h
  obtain ⟨hhosted, hinserted, -⟩ := hP.performs.effect hcreated
  have hlabels : created.metadata.labels = c.nodeLabels slot := hhosted.labels
  refine ⟨⟨created, hinserted.mem, Option.isSome_iff_exists.2 hhosted.named, hlabels⟩, ?_⟩
  rw [← selects_nodeLabels hP hkey hvalue, ← hlabels]
  exact hinserted.length_filter _

theorem Submitted.mem_ownPods_iff (h : c.Submitted P s slot ip pod) :
    pod ∈ c.ownPods P (P.holds s) ↔ c.keepsOwner slot = true := by
  rw [ownPods, List.mem_filter, h.labels, selects_nodeLabels hP hkey hvalue]
  exact and_iff_right h.held

theorem Submitted.behind_iff (h : c.Submitted P s slot ip pod)
    (hip : Endpoint.host? remoteHost = some ip) :
    Behind P.answer c s remoteHost ip pod ↔ c.keepsOwner slot = true := by
  rw [← h.mem_ownPods_iff hP hkey hvalue]
  constructor
  · rintro ⟨-, pods, hlisted, hfirst⟩
    obtain ⟨rfl, -⟩ := hP.performs.listPods (Prod.ext hlisted rfl)
    exact List.mem_of_find?_eq_some (find?_eq_some_iff_firstAt.2 hfirst)
  · intro hown
    obtain ⟨found, hfound⟩ : ∃ found,
        (c.ownPods P (P.holds s)).find? (·.ip? == some ip) = some found :=
      Option.isSome_iff_exists.1 (List.find?_isSome.2 ⟨pod, hown, by simp [h.address]⟩)
    have haddress : found.ip? = some ip := by simpa using List.find?_some hfound
    obtain rfl := h.alone found (List.mem_of_find?_eq_some hfound) haddress
    exact ⟨hip, _, (readsOnly_listPods hP hkey hvalue s).succeeds,
      find?_eq_some_iff_firstAt.1 hfound⟩

theorem Submitted.registered (h : c.Submitted P s slot ip pod)
    (hip : Endpoint.host? remoteHost = some ip) (hkept : c.keepsOwner slot = true)
    (hname : pod.name? = some name) (hscreen : pod.envVar? c.screenVar = none) :
    (run P.answer (c.registerNode nodeName remoteHost).run s).1 = .ok ⟨name, ip, none⟩ :=
  registerNode_screenless ((h.behind_iff hP hkey hvalue hip).2 hkept) hname hscreen

theorem Submitted.refused (h : c.Submitted P s slot ip pod)
    (hip : Endpoint.host? remoteHost = some ip) (hlost : c.keepsOwner slot = false) :
    (run P.answer (c.registerNode nodeName remoteHost).run s).1 = .error (.registrationFailed ip
      ("node " ++ nodeName ++ " announced from " ++ remoteHost)) := by
  refine registerNode_foreign hip (readsOnly_listPods hP hkey hvalue s).succeeds
    fun other hother haddress => ?_
  rw [h.alone other hother haddress, h.mem_ownPods_iff hP hkey hvalue, hlost] at hother
  nomatch hother

theorem mem_cleanup_iff (hkeeps : P.Keeps) (hheld : pod ∈ (P.holds s).pods)
    (hlabels : pod.metadata.labels = c.nodeLabels slot) (hnamed : pod.name?.isSome = true)
    (hnone : failures P.answer c.cleanup s = []) :
    pod ∈ (P.holds (run P.answer c.cleanup s).2).pods ↔ c.keepsOwner slot = false := by
  rw [cleanup_pods hkeeps, List.mem_filter, hnone, and_iff_right hheld,
    ← selects_nodeLabels hP hkey hvalue, ← hlabels]
  constructor
  · intro hleft
    by_contra howned
    have hunnamed : pod.name? = none := Kind.name?_of_outlives hleft (eq_true_of_ne_false howned)
    rw [hunnamed] at hnamed
    nomatch hnamed
  · exact fun hforeign => Kind.outlives_of_foreign (K := Kind.pods) hforeign

end Serving

/-- A pod that `c` submits has the owner's label exactly if `c.keepsOwner` holds of its slot, and
this decides whether it is counted, found, registered and cleaned up. -/
structure Recognised (P : Platform σ) (c : Client) : Prop where
  /-- A node is submitted with the owner's label exactly if nothing takes its place. -/
  submitted : ∀ (answer : σ → (op : Operation) → Except ClusterError op.Reply × σ) slot sharedFolder
    namePrefix image env nodePort s, ∃ pod,
      calls answer (c.createContainer slot sharedFolder namePrefix image env nodePort) s =
        [.createPod pod] ∧
      (pod.metadata.labels.get? c.ownershipLabel = some c.ownershipValue ↔
        c.keepsOwner slot = true) ∧
      (P.selects c.ownerSelector pod.metadata.labels = true ↔ c.keepsOwner slot = true)
  /-- A service always is. -/
  exposed : ∀ (answer : σ → (op : Operation) → Except ClusterError op.Reply × σ) nodeName remoteHost
    s service, .createService service ∈ calls answer (c.registerNode nodeName remoteHost).run s →
      service.metadata.labels.get? c.ownershipLabel = some c.ownershipValue ∧
        P.selects c.ownerSelector service.metadata.labels = true
  /-- A node that has been submitted is a pod with a name and the labels of a node, and it counts if
  it has kept the owner's. -/
  counted : ∀ slot sharedFolder namePrefix image env nodePort s s',
    run P.answer (c.createContainer slot sharedFolder namePrefix image env nodePort) s =
      (true, s') →
      (∃ created ∈ (P.holds s').pods, created.name?.isSome = true ∧
        created.metadata.labels = c.nodeLabels slot) ∧
      ∃ n, (run P.answer c.runningContainers.run s).1 = .ok n ∧
        (run P.answer c.runningContainers.run s').1 =
          .ok (n + if c.keepsOwner slot then 1 else 0)
  /-- It is the first pod with its address if it has kept the label. -/
  found : ∀ s slot ip pod remoteHost, c.Submitted P s slot ip pod →
    Endpoint.host? remoteHost = some ip →
      (Behind P.answer c s remoteHost ip pod ↔ c.keepsOwner slot = true)
  /-- Without a screen, it is registered then. -/
  registered : ∀ s slot ip pod name nodeName remoteHost, c.Submitted P s slot ip pod →
    Endpoint.host? remoteHost = some ip → c.keepsOwner slot = true → pod.name? = some name →
      pod.envVar? c.screenVar = none →
        (run P.answer (c.registerNode nodeName remoteHost).run s).1 = .ok ⟨name, ip, none⟩
  /-- If it has lost the label, it is refused. -/
  refused : ∀ s slot ip pod nodeName remoteHost, c.Submitted P s slot ip pod →
    Endpoint.host? remoteHost = some ip → c.keepsOwner slot = false →
      (run P.answer (c.registerNode nodeName remoteHost).run s).1 = .error (.registrationFailed ip
        ("node " ++ nodeName ++ " announced from " ++ remoteHost))
  /-- A cleanup without failures leaves it exactly if it has lost the label. -/
  deleted : ∀ s slot pod, pod ∈ (P.holds s).pods → pod.metadata.labels = c.nodeLabels slot →
    pod.name?.isSome = true → failures P.answer c.cleanup s = [] →
      (pod ∈ (P.holds (run P.answer c.cleanup s).2).pods ↔ c.keepsOwner slot = false)

/-- The hub recognises a service that it has submitted, and a pod exactly if neither the `app` label
nor that of its slot has taken the place of the owner's. -/
theorem recognises (hP : P.Serves) (hkeeps : P.Keeps)
    (hkey : Label.isKey c.ownershipLabel = true) (hvalue : Label.isValue c.ownershipValue = true) :
    c.Recognised P where
  submitted answer slot sharedFolder namePrefix image env nodePort s := by
    refine ⟨(c.nodePod slot sharedFolder namePrefix image env nodePort).pod, ?_,
      get?_nodeLabels_iff, ?_⟩
    · rw [createContainer_eq]
      rfl
    · rw [← selects_nodeLabels hP hkey hvalue]
      rfl
  exposed answer nodeName remoteHost s service h := by
    rw [labels_of_createService_mem h]
    exact ⟨(KeyMap.get?_insert ..).trans (if_pos rfl), hP.selectsLabels.ownerLabels hkey hvalue⟩
  counted slot sharedFolder namePrefix image env nodePort s s' h := by
    obtain ⟨hcreated, hcount⟩ := createContainer_counted hP hkey hvalue h
    refine ⟨hcreated, _, (readsOnly_runningContainers hP hkey hvalue s).succeeds, ?_⟩
    rw [← hcount]
    exact (readsOnly_runningContainers hP hkey hvalue s').succeeds
  found _ _ _ _ _ h hip := h.behind_iff hP hkey hvalue hip
  registered _ _ _ _ _ _ _ h hip hkept hname hscreen :=
    h.registered hP hkey hvalue hip hkept hname hscreen
  refused _ _ _ _ _ _ h hip hlost := h.refused hP hkey hvalue hip hlost
  deleted _ _ _ hheld hlabels hnamed hnone :=
    mem_cleanup_iff hP hkey hvalue hkeeps hheld hlabels hnamed hnone

/-- A node that is submitted, counted and deleted. -/
theorem recognises_node :
    ∃ after, run listPlatform.answer (createContainer {} ⟨1⟩ none "node" "image" .empty none) {} =
        (true, after) ∧ after.pods ≠ [] ∧
      (run listPlatform.answer (runningContainers {}).run after).1 = .ok 1 ∧
      ∀ pod ∈ after.pods, pod ∉ (run listPlatform.answer (cleanup {}) after).2.pods := by
  have hrecognised : Recognised listPlatform {} := recognises Platform.listPlatform_serves
    Platform.listPlatform_keeps (by decide) (by decide)
  have hrun : run listPlatform.answer (createContainer {} ⟨1⟩ none "node" "image" .empty none) {} =
      (true, (Inventory.createPod {} (nodePod {} ⟨1⟩ none "node" "image" .empty none).pod).2) := by
    decide +kernel
  obtain ⟨-, n, hbefore, hafter⟩ := hrecognised.counted _ _ _ _ _ _ _ _ hrun
  have hpods : ∀ pod ∈ (Inventory.createPod {} (nodePod {} ⟨1⟩ none "node" "image" .empty
      none).pod).2.pods, pod.metadata.labels = nodeLabels {} ⟨1⟩ ∧ pod.name?.isSome = true := by
    decide +kernel
  refine ⟨_, hrun, by decide +kernel, ?_, fun pod hpod hleft => ?_⟩
  · obtain rfl : 0 = n := Except.ok.inj hbefore
    exact hafter
  · obtain ⟨hlabels, hnamed⟩ := hpods pod hpod
    have hlost := (hrecognised.deleted _ ⟨1⟩ pod hpod hlabels hnamed (by decide +kernel)).1 hleft
    nomatch hlost

/-- With the key of the `app` label for the owner, a node is submitted that the hub does not
recognise: it counts none, and a cleanup leaves it. -/
theorem unrecognised_app :
    let c : Client := { ownershipLabel := "app" }
    let created :=
      run listPlatform.answer (c.createContainer ⟨1⟩ none "node" "image" .empty none) {}
    (Label.isKey c.ownershipLabel = true ∧ Label.isValue c.ownershipValue = true ∧
      Label.isKey c.slotLabel = true ∧ Label.isValue c.appLabel = true) ∧
    created.1 = true ∧ created.2.pods.length = 1 ∧
    (∀ pod ∈ created.2.pods,
      pod.metadata.labels.get? c.ownershipLabel ≠ some c.ownershipValue) ∧
    (run listPlatform.answer c.runningContainers.run created.2).1 = .ok 0 ∧
    (run listPlatform.answer c.cleanup created.2).2 = created.2 := by
  decide +kernel

end BrowserGrid.Cluster.Client
