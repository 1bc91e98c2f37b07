import BrowserGrid.Proofs.Cluster.Exposure

/-!
# What a cleanup leaves

A cleanup goes over two kinds of objects in turn, the pods and the services, in the same way
(`Kind.sweep`): the objects of the hub are listed, and each one with a name is deleted.  No failure
ends it.  So the calls are known beforehand but for the answers to the two listings
(`Kind.calls_sweep`), and on a platform where a call that fails has changed nothing, an object is
left exactly if it was not to be deleted or a failure has spared it (`Kind.view_sweep`).  Names are
distinct, so the deletion of one object is that of no other (`Kind.mem_named_iff`).

The hub cleans up at its end if it has prepared the cluster.  The parts of a preparation are stages
of their own here, so a preparation may be cut short or overlap with the end of the hub.  What is
kept in memory about it is one truth value, which a preparation sets when it is over and an end
clears (`prepared_of_armed`, `armed_of_prepared`).

`cleanup_tidies` joins both.
-/

namespace BrowserGrid.Cluster

open Program

/-! ### Kinds of objects -/

/-- A kind of objects: how they are seen, listed and deleted. -/
structure Kind (α : Type) where
  view : Inventory → List α
  name? : α → Option String
  labels : α → KeyMap String
  distinct : ∀ i, ((view i).filterMap name?).Nodup
  /-- The call that lists the objects which a selector picks. -/
  listing : String → Operation
  /-- The names in what it answers. -/
  names : ∀ selector, (listing selector).Reply → List String
  listed : ∀ {selects before selector reply after},
    Effect selects before (listing selector) reply after →
      names selector reply =
        ((view before).filter fun x => selects selector (labels x)).filterMap name? ∧ after = before
  /-- The call that deletes the object with a name. -/
  delete : String → Operation
  deleted : ∀ {selects before name reply after}, Effect selects before (delete name) reply after →
    view after = (view before).filter (name? · ≠ some name)
  delete_injective : Function.Injective delete
  delete_ne_listing : ∀ name selector, delete name ≠ listing selector

namespace Kind

def pods : Kind Pod where
  view := Inventory.pods
  name? := Pod.name?
  labels pod := pod.metadata.labels
  distinct := Inventory.podsDistinct
  listing := .listPods
  names _ listed := List.filterMap Pod.name? listed
  listed h := ⟨by rw [h.1], h.2⟩
  delete := .deletePod
  deleted h := h.1
  delete_injective _ _ := Operation.deletePod.inj
  delete_ne_listing _ _ := Operation.noConfusion

def services : Kind Service where
  view := Inventory.services
  name? := Service.name?
  labels service := service.metadata.labels
  distinct := Inventory.servicesDistinct
  listing := .listServices
  names _ listed := List.filterMap Service.name? listed
  listed h := ⟨by rw [h.1], h.2⟩
  delete := .deleteService
  deleted h := h.1
  delete_injective _ _ := Operation.deleteService.inj
  delete_ne_listing _ _ := Operation.noConfusion

variable {α σ : Type} {answer : σ → (op : Operation) → Except ClusterError op.Reply × σ}

/-- Delete the objects with these names one after the other, whatever the platform says. -/
def deleteAll (K : Kind α) : List String → Program Unit
  | [] => .done ()
  | name :: rest => .call (K.delete name) fun _ => K.deleteAll rest

/-- List objects, and delete those that have names; nothing if they cannot be listed. -/
def sweep (K : Kind α) (selector : String) : Program Unit :=
  .call (K.listing selector) fun
    | .ok listed => K.deleteAll (K.names selector listed)
    | .error _ => .done ()

/-- The names in a listing; none if it fails. -/
def named (K : Kind α) (selector : String) :
    Except ClusterError (K.listing selector).Reply → List String
  | .ok listed => K.names selector listed
  | .error _ => []

theorem deletePods_eq (names : List String) : Client.deletePods names = pods.deleteAll names := by
  induction names with
  | nil => rfl
  | cons name rest ih => exact congrArg (Program.call _) (funext fun _ => ih)

theorem deleteServices_eq (names : List String) :
    Client.deleteServices names = services.deleteAll names := by
  induction names with
  | nil => rfl
  | cons name rest ih => exact congrArg (Program.call _) (funext fun _ => ih)

theorem cleanupPods_eq (c : Client) : c.cleanupPods = pods.sweep c.ownerSelector :=
  congrArg (Program.call _) (funext fun
    | .ok _ => deletePods_eq _
    | .error _ => rfl)

theorem cleanupServices_eq (c : Client) : c.cleanupServices = services.sweep c.ownerSelector :=
  congrArg (Program.call _) (funext fun
    | .ok _ => deleteServices_eq _
    | .error _ => rfl)

/-! ### One kind after the other -/

variable {K : Kind α}

theorem calls_deleteAll (names : List String) (s : σ) :
    calls answer (K.deleteAll names) s = names.map K.delete := by
  induction names generalizing s with
  | nil => rfl
  | cons name rest ih => exact congrArg (K.delete name :: ·) (ih _)

theorem listing_not_mem (selector : String) (names : List String) :
    K.listing selector ∉ names.map K.delete := fun h => by
  obtain ⟨name, -, hname⟩ := List.mem_map.1 h
  exact K.delete_ne_listing _ _ hname

theorem calls_sweep (selector : String) (s : σ) :
    calls answer (K.sweep selector) s =
      K.listing selector ::
        (K.named selector (answer s (K.listing selector)).1).map K.delete := by
  rw [sweep, calls]
  cases (answer s (K.listing selector)).1 with
  | ok listed => exact congrArg _ (calls_deleteAll _ _)
  | error e => rfl

variable {P : Platform σ}

theorem mem_of_delete_mem_failures {names : List String} {s : σ} {name : String}
    (h : K.delete name ∈ failures answer (K.deleteAll names) s) : name ∈ names := by
  have hcall := mem_calls_of_mem_failures h
  rw [calls_deleteAll] at hcall
  exact (List.mem_map_of_injective K.delete_injective).1 hcall

/-- What is left of the objects with these names are those whose deletion failed. -/
theorem view_deleteAll (hP : P.Keeps) {names : List String} (hnames : names.Nodup) (s : σ) :
    K.view (P.holds (run P.answer (K.deleteAll names) s).2) =
      (K.view (P.holds s)).filter fun x => (K.name? x).all fun name =>
        name ∉ names ∨ K.delete name ∈ failures P.answer (K.deleteAll names) s := by
  induction names generalizing s with
  | nil => simp [deleteAll, run]
  | cons name rest ih =>
    -- what the later deletions leave is known; the first one is judged against it
    obtain ⟨hname, hrest⟩ := List.nodup_cons.1 hnames
    have hlater := ih hrest (P.answer s (K.delete name)).2
    -- its own deletion cannot fail a second time
    have honce : K.delete name ∉
        failures P.answer (K.deleteAll rest) (P.answer s (K.delete name)).2 :=
      fun h => hname (mem_of_delete_mem_failures h)
    refine Eq.trans hlater ?_
    cases hreply : (P.answer s (K.delete name)).1 with
    | ok reply =>
      rw [K.deleted (hP.performs s _ reply hreply), List.filter_filter]
      have hfailures : failures P.answer (K.deleteAll (name :: rest)) s =
          failures P.answer (K.deleteAll rest) (P.answer s (K.delete name)).2 :=
        failures_call_of_ok hreply
      rw [hfailures]
      refine List.filter_congr fun x _ => ?_
      cases K.name? x with
      | none => rfl
      | some n =>
        by_cases hn : n = name
        · subst hn
          simp [honce]
        · simp [hn]
    | error e =>
      rw [hP.spares s _ e hreply]
      have hfailures : failures P.answer (K.deleteAll (name :: rest)) s =
          K.delete name :: failures P.answer (K.deleteAll rest) (P.answer s (K.delete name)).2 :=
        failures_call_of_error hreply
      rw [hfailures]
      refine List.filter_congr fun x _ => ?_
      cases K.name? x with
      | none => rfl
      | some n =>
        by_cases hn : n = name
        · subst hn
          simp [hname]
        · simp [hn, K.delete_injective.eq_iff]

theorem mem_named_iff {i : Inventory} {x : α} {name : String} {p : α → Bool}
    (hx : x ∈ K.view i) (hname : K.name? x = some name) :
    name ∈ ((K.view i).filter p).filterMap K.name? ↔ p x = true := by
  rw [List.mem_filterMap]
  constructor
  · rintro ⟨y, hy, hyname⟩
    obtain ⟨hy, hp⟩ := List.mem_filter.1 hy
    rwa [eq_of_name (K.distinct i) hx hy hname hyname]
  · exact fun hp => ⟨x, List.mem_filter.2 ⟨hx, hp⟩, hname⟩

/-- Whether an object is left when these calls have failed: it was not to be deleted, it was not
listed, it has no name, or its own deletion failed. -/
def outlives (K : Kind α) (P : Platform σ) (selector : String) (failed : List Operation) (x : α) :
    Bool :=
  !P.selects selector (K.labels x) || K.listing selector ∈ failed ||
    (K.name? x).all (K.delete · ∈ failed)

/-- What is left of the objects of this kind. -/
theorem view_sweep (hP : P.Keeps) (selector : String) (s : σ) :
    K.view (P.holds (run P.answer (K.sweep selector) s).2) =
      (K.view (P.holds s)).filter
        (K.outlives P selector (failures P.answer (K.sweep selector) s)) := by
  show K.view (P.holds (run P.answer _ (P.answer s (K.listing selector)).2).2) = _
  cases hreply : (P.answer s (K.listing selector)).1 with
  | error e =>
    have hspares := hP.spares s _ e hreply
    rw [sweep, failures_call_of_error hreply]
    refine Eq.trans (congrArg K.view hspares) (List.filter_eq_self.2 fun x _ => ?_).symm
    simp [outlives]
  | ok listed =>
    obtain ⟨hnames, hsame⟩ := K.listed (hP.performs s _ listed hreply)
    rw [sweep, failures_call_of_ok hreply]
    have hdeleted := view_deleteAll (K := K) hP
      (hnames ▸ Inventory.nodup_filter _ (K.distinct _)) (P.answer s (K.listing selector)).2
    refine Eq.trans hdeleted ?_
    rw [hsame]
    -- an object is in the listing exactly if its name is
    refine List.filter_congr fun x hx => ?_
    have hlisted : K.listing selector ∉ failures P.answer (K.deleteAll (K.names selector listed))
        (P.answer s (K.listing selector)).2 := fun h =>
      listing_not_mem _ _ (calls_deleteAll (K := K) _ _ ▸ mem_calls_of_mem_failures h)
    cases hname : K.name? x with
    | none => simp [outlives, hname]
    | some name =>
      have hmem := mem_named_iff (p := fun x => P.selects selector (K.labels x)) hx hname
      rw [← hnames] at hmem
      simp [outlives, hname, hlisted, hmem]

theorem mem_calls_sweep {selector : String} {s : σ} {op : Operation}
    (h : op ∈ calls answer (K.sweep selector) s) :
    op = K.listing selector ∨ ∃ name, op = K.delete name := by
  rw [calls_sweep, List.mem_cons, List.mem_map] at h
  exact h.imp_right fun ⟨name, _, hname⟩ => ⟨name, hname.symm⟩

theorem name?_of_outlives {selector : String} {x : α} (h : K.outlives P selector [] x = true)
    (howned : P.selects selector (K.labels x) = true) : K.name? x = none := by
  cases hname : K.name? x with
  | none => rfl
  | some name => simp [outlives, howned, hname] at h

theorem outlives_of_foreign {selector : String} {failed : List Operation} {x : α}
    (hforeign : P.selects selector (K.labels x) = false) :
    K.outlives P selector failed x = true := by
  simp [outlives, hforeign]

/-- The calls for objects of another kind are not those for these, and change none of them. -/
structure Apart {β : Type} (K : Kind α) (L : Kind β) : Prop where
  listing : ∀ selector, (∀ other, L.listing selector ≠ K.listing other) ∧
    ∀ name, L.listing selector ≠ K.delete name
  delete : ∀ name, (∀ selector, L.delete name ≠ K.listing selector) ∧
    ∀ other, L.delete name ≠ K.delete other
  spared : ∀ {selects before name reply after}, Effect selects before (L.delete name) reply after →
    K.view after = K.view before

theorem pods_apart : pods.Apart services where
  listing _ := ⟨fun _ => Operation.noConfusion, fun _ => Operation.noConfusion⟩
  delete _ := ⟨fun _ => Operation.noConfusion, fun _ => Operation.noConfusion⟩
  spared h := h.2

theorem services_apart : services.Apart pods where
  listing _ := ⟨fun _ => Operation.noConfusion, fun _ => Operation.noConfusion⟩
  delete _ := ⟨fun _ => Operation.noConfusion, fun _ => Operation.noConfusion⟩
  spared h := h.2

namespace Apart

variable {β : Type} {L : Kind β} {selector : String} {s : σ}

theorem foreign (h : K.Apart L) {op : Operation} (hop : op ∈ calls answer (L.sweep selector) s) :
    (∀ other, op ≠ K.listing other) ∧ ∀ name, op ≠ K.delete name := by
  obtain rfl | ⟨name, rfl⟩ := mem_calls_sweep hop
  · exact h.listing selector
  · exact h.delete name

theorem view_sweep (h : K.Apart L) (hP : P.Keeps) :
    K.view (P.holds (run P.answer (L.sweep selector) s).2) = K.view (P.holds s) :=
  hP.frame K.view fun op hop _ _ _ heffect => by
    obtain rfl | ⟨name, rfl⟩ := mem_calls_sweep hop
    · rw [(L.listed heffect).2]
    · exact h.spared heffect

/-- The failures of calls for another kind spare no object of this one. -/
theorem outlives_append (h : K.Apart L) (failed : List Operation) (other : String) :
    K.outlives P other (failed ++ failures answer (L.sweep selector) s) =
        K.outlives P other failed ∧
      K.outlives P other (failures answer (L.sweep selector) s ++ failed) =
        K.outlives P other failed := by
  have hlisting : K.listing other ∉ failures answer (L.sweep selector) s := fun hmem =>
    (h.foreign (mem_calls_of_mem_failures hmem)).1 other rfl
  have hdelete : ∀ name, K.delete name ∉ failures answer (L.sweep selector) s := fun name hmem =>
    (h.foreign (mem_calls_of_mem_failures hmem)).2 name rfl
  constructor <;> funext x <;> simp [outlives, hlisting, hdelete]

end Apart

theorem nodup_calls_sweep (hP : P.Performs) (selector : String) (s : σ) :
    (calls P.answer (K.sweep selector) s).Nodup := by
  rw [calls_sweep]
  refine List.nodup_cons.2 ⟨listing_not_mem _ _, List.Nodup.map K.delete_injective ?_⟩
  cases hreply : (P.answer s (K.listing selector)).1 with
  | ok listed =>
    show (K.names selector listed).Nodup
    rw [(K.listed (hP s _ listed hreply)).1]
    exact Inventory.nodup_filter _ (K.distinct _)
  | error e => exact List.nodup_nil

end Kind

namespace Client

variable {σ : Type} {answer : σ → (op : Operation) → Except ClusterError op.Reply × σ}
  {P : Platform σ} {c : Client} {s : σ}

/-! ### The whole cleanup -/

theorem cleanup_eq (c : Client) : c.cleanup = (do
    Kind.pods.sweep c.ownerSelector
    Kind.services.sweep c.ownerSelector) := by
  rw [cleanup, Kind.cleanupPods_eq, Kind.cleanupServices_eq]

theorem run_cleanup : run answer c.cleanup s =
    run answer (Kind.services.sweep c.ownerSelector)
      (run answer (Kind.pods.sweep c.ownerSelector) s).2 := by
  rw [cleanup_eq, run_bind]

theorem calls_cleanup : calls answer c.cleanup s =
    calls answer (Kind.pods.sweep c.ownerSelector) s ++
      calls answer (Kind.services.sweep c.ownerSelector)
        (run answer (Kind.pods.sweep c.ownerSelector) s).2 := by
  rw [cleanup_eq, calls_bind]

theorem failures_cleanup : failures answer c.cleanup s =
    failures answer (Kind.pods.sweep c.ownerSelector) s ++
      failures answer (Kind.services.sweep c.ownerSelector)
        (run answer (Kind.pods.sweep c.ownerSelector) s).2 := by
  rw [cleanup_eq, failures_bind]

theorem nodup_calls_cleanup (hP : P.Performs) : (calls P.answer c.cleanup s).Nodup := by
  rw [calls_cleanup]
  refine List.nodup_append.2 ⟨Kind.nodup_calls_sweep hP _ _, Kind.nodup_calls_sweep hP _ _,
    fun op hpods other hservices heq => ?_⟩
  obtain ⟨hlisting, hdelete⟩ := Kind.pods_apart.foreign hservices
  obtain rfl | ⟨name, rfl⟩ := Kind.mem_calls_sweep hpods
  · exact hlisting _ heq.symm
  · exact hdelete name heq.symm

theorem cleanup_pods (hP : P.Keeps) : (P.holds (run P.answer c.cleanup s).2).pods =
    (P.holds s).pods.filter
      (Kind.pods.outlives P c.ownerSelector (failures P.answer c.cleanup s)) := by
  rw [run_cleanup, failures_cleanup, (Kind.pods_apart.outlives_append _ _).1]
  -- the services are deleted after the pods
  exact (Kind.pods_apart.view_sweep hP).trans (Kind.pods.view_sweep hP _ s)

theorem cleanup_services (hP : P.Keeps) : (P.holds (run P.answer c.cleanup s).2).services =
    (P.holds s).services.filter
      (Kind.services.outlives P c.ownerSelector (failures P.answer c.cleanup s)) := by
  have hbefore : (P.holds (run P.answer (Kind.pods.sweep c.ownerSelector) s).2).services =
      (P.holds s).services :=
    Kind.services_apart.view_sweep hP
  rw [run_cleanup, failures_cleanup, (Kind.services_apart.outlives_append _ _).2, ← hbefore]
  exact Kind.services.view_sweep hP _ _

/-- The list of calls that `c.cleanup` makes on `P` from `s`, and the pods and services that `P`
holds afterwards: those that `outlives` describes. -/
structure Cleaned (P : Platform σ) (c : Client) (s : σ) : Prop where
  /-- The pods are listed, and those with names deleted; then, whatever has failed, the services. -/
  asked : calls P.answer c.cleanup s =
    (.listPods c.ownerSelector ::
      (Kind.pods.named c.ownerSelector (P.answer s
        (.listPods c.ownerSelector)).1).map .deletePod) ++
    .listServices c.ownerSelector ::
      (Kind.services.named c.ownerSelector (P.answer (run P.answer c.cleanupPods s).2
        (.listServices c.ownerSelector)).1).map .deleteService
  /-- No call is made twice. -/
  once : (calls P.answer c.cleanup s).Nodup
  /-- What is left is what the failures have spared. -/
  pods : (P.holds (run P.answer c.cleanup s).2).pods = (P.holds s).pods.filter
    (Kind.pods.outlives P c.ownerSelector (failures P.answer c.cleanup s))
  services : (P.holds (run P.answer c.cleanup s).2).services = (P.holds s).services.filter
    (Kind.services.outlives P c.ownerSelector (failures P.answer c.cleanup s))
  /-- Without failures, nothing that the hub owns under a name is left. -/
  complete : failures P.answer c.cleanup s = [] →
    (∀ pod ∈ c.ownPods P (P.holds (run P.answer c.cleanup s).2), pod.name? = none) ∧
      ∀ service ∈ c.ownServices P (P.holds (run P.answer c.cleanup s).2), service.name? = none
  /-- What the hub does not own is left in any case. -/
  confined :
    (∀ pod ∈ (P.holds s).pods, P.selects c.ownerSelector pod.metadata.labels = false →
      pod ∈ (P.holds (run P.answer c.cleanup s).2).pods) ∧
    ∀ service ∈ (P.holds s).services,
      P.selects c.ownerSelector service.metadata.labels = false →
        service ∈ (P.holds (run P.answer c.cleanup s).2).services

theorem cleanup_cleaned (hP : P.Keeps) (c : Client) (s : σ) : c.Cleaned P s where
  asked := by
    rw [calls_cleanup, Kind.calls_sweep, Kind.calls_sweep, Kind.cleanupPods_eq]
    rfl
  once := nodup_calls_cleanup hP.performs
  pods := cleanup_pods hP
  services := cleanup_services hP
  complete hnone := by
    rw [ownPods, ownServices, cleanup_pods hP, cleanup_services hP, hnone]
    constructor
    · intro pod hpod
      obtain ⟨hleft, howned⟩ := List.mem_filter.1 hpod
      exact Kind.name?_of_outlives (List.mem_filter.1 hleft).2 howned
    · intro service hservice
      obtain ⟨hleft, howned⟩ := List.mem_filter.1 hservice
      exact Kind.name?_of_outlives (List.mem_filter.1 hleft).2 howned
  confined := by
    rw [cleanup_pods hP, cleanup_services hP]
    exact ⟨fun pod hpod hforeign => List.mem_filter.2 ⟨hpod, Kind.outlives_of_foreign hforeign⟩,
      fun service hservice hforeign =>
        List.mem_filter.2 ⟨hservice, Kind.outlives_of_foreign hforeign⟩⟩

/-! ### The end of the hub -/

/-- What happens in the life of a hub: a preparation of the cluster has looked for the folder to
pass through, a preparation is over, or the hub ends. -/
inductive Stage (σ : Type) where
  | looked (s : σ)
  | prepared
  | ended (s : σ)

/-- What the hub remembers after one more stage. -/
def remember (answer : σ → (op : Operation) → Except ClusterError op.Reply × σ) (c : Client)
    (memory : Memory) : Stage σ → Memory
  | .looked s => (run answer (c.discover memory) s).1
  | .prepared => { memory with armed := true }
  | .ended s => (run answer (c.exitHook memory) s).1

/-- What the hub remembers after the stages of its life. -/
def remembers (answer : σ → (op : Operation) → Except ClusterError op.Reply × σ) (c : Client)
    (history : List (Stage σ)) : Memory :=
  history.foldl (c.remember answer) {}

/-- A whole preparation, with nothing between its parts. -/
theorem initialise_remember (memory : Memory) (s : σ) :
    (run answer (c.initialise memory) s).1 =
      c.remember answer (c.remember answer memory (.looked s)) .prepared := by
  rw [initialise, run_bind, run_bind]
  rfl

theorem discover_armed (memory : Memory) (s : σ) :
    (run answer (c.discover memory) s).1.armed = memory.armed := by
  rw [discover]
  split
  · rfl
  · rename_i name _
    show Memory.armed (run answer _ (answer s (.getPod name)).2).1 = _
    cases (answer s (.getPod name)).1 with
    | ok found => cases found <;> rfl
    | error e => rfl

theorem exitHook_of_armed {memory : Memory} (h : memory.armed = true) (s : σ) :
    run answer (c.exitHook memory) s =
        ({ memory with armed := false }, (run answer c.cleanup s).2) ∧
      calls answer (c.exitHook memory) s = calls answer c.cleanup s := by
  rw [exitHook, if_pos h, run_bind, calls_bind]
  exact ⟨rfl, List.append_nil _⟩

theorem exitHook_of_idle {memory : Memory} (h : memory.armed = false) (s : σ) :
    run answer (c.exitHook memory) s = ({ memory with armed := false }, s) ∧
      calls answer (c.exitHook memory) s = [] := by
  rw [exitHook, if_neg (by simp [h])]
  exact ⟨rfl, rfl⟩

/-- The end of a hub makes the calls of a cleanup. -/
def Cleans (answer : σ → (op : Operation) → Except ClusterError op.Reply × σ) (c : Client)
    (history : List (Stage σ)) (s : σ) : Prop :=
  calls answer (c.exitHook (c.remembers answer history)) s = calls answer c.cleanup s

/-- A cleanup makes calls, so whether there was one can be told. -/
theorem cleans_iff_armed {history : List (Stage σ)} :
    c.Cleans answer history s ↔ (c.remembers answer history).armed = true := by
  constructor
  · intro h
    by_contra hidle
    rw [Cleans, (exitHook_of_idle (by simpa using hidle) s).2, calls_cleanup, Kind.calls_sweep] at h
    nomatch h
  · exact fun h => (exitHook_of_armed h s).2

theorem remembers_concat (history : List (Stage σ)) (stage : Stage σ) :
    c.remembers answer (history ++ [stage]) =
      c.remember answer (c.remembers answer history) stage :=
  List.foldl_concat ..

/-- A hub that is to clean up has prepared the cluster and not ended since. -/
theorem prepared_of_armed {history : List (Stage σ)}
    (h : (c.remembers answer history).armed = true) :
    ∃ front back, history = front ++ .prepared :: back ∧ ∀ t, .ended t ∉ back := by
  induction history using List.reverseRecOn with
  | nil => nomatch h
  | append_singleton history stage ih =>
    rw [remembers_concat] at h
    -- the last stage decides, or it leaves the matter to the ones before
    cases stage with
    | looked s =>
      obtain ⟨front, back, rfl, hback⟩ := ih ((discover_armed _ s).symm.trans h)
      exact ⟨front, back ++ [.looked s], by simp, fun t ht => by simp [hback t] at ht⟩
    | prepared => exact ⟨history, [], rfl, fun _ => List.not_mem_nil⟩
    | ended s =>
      replace h : (run answer (c.exitHook (c.remembers answer history)) s).1.armed = true := h
      cases harmed : (c.remembers answer history).armed with
      | true =>
        rw [(exitHook_of_armed harmed s).1] at h
        nomatch h
      | false =>
        rw [(exitHook_of_idle harmed s).1] at h
        nomatch h

/-- As long as no end cleans up, a hub that is to do so still is. -/
theorem armed_of_prepared {history back : List (Stage σ)}
    (h : (c.remembers answer history).armed = true)
    (hback : ∀ front t rest, back = front ++ .ended t :: rest →
      ¬c.Cleans answer (history ++ front) t) :
    (c.remembers answer (history ++ back)).armed = true := by
  induction back generalizing history with
  | nil => rwa [List.append_nil]
  | cons stage back ih =>
    have hstage : (c.remembers answer (history ++ [stage])).armed = true := by
      rw [remembers_concat]
      cases stage with
      | looked s => exact (discover_armed _ s).trans h
      | prepared => rfl
      | ended s =>
        have hidle := hback [] s back rfl
        rw [List.append_nil, cleans_iff_armed] at hidle
        exact absurd h hidle
    have hrest := ih hstage fun front t rest hrest => by
      rw [List.append_assoc]
      exact hback (stage :: front) t rest (congrArg (stage :: ·) hrest)
    rwa [List.append_assoc] at hrest

/-- From every state `c.cleanup` is `Cleaned`, and `c.exitHook` is this cleanup at the ends that
satisfy `Cleans` and does nothing at the others. -/
structure Tidies (P : Platform σ) (c : Client) : Prop where
  cleaned : ∀ s, c.Cleaned P s
  /-- A preparation looks for the folder, and is over. -/
  prepared : ∀ memory s, (run P.answer (c.initialise memory) s).1 =
    c.remember P.answer (c.remember P.answer memory (.looked s)) .prepared
  /-- The end of a hub cleans up if a preparation is over since the last end that has. -/
  ended : ∀ history s, c.Cleans P.answer history s ↔
    ∃ front back, history = front ++ .prepared :: back ∧
      ∀ between t rest, back = between ++ .ended t :: rest →
        ¬c.Cleans P.answer (front ++ .prepared :: between) t
  /-- Then it leaves what a cleanup leaves. -/
  performed : ∀ history s, c.Cleans P.answer history s →
    (run P.answer (c.exitHook (c.remembers P.answer history)) s).2 =
      (run P.answer c.cleanup s).2
  /-- Otherwise it does nothing. -/
  idle : ∀ history s, ¬c.Cleans P.answer history s →
    calls P.answer (c.exitHook (c.remembers P.answer history)) s = [] ∧
      (run P.answer (c.exitHook (c.remembers P.answer history)) s).2 = s

/-- A cleanup is best effort, complete and confined, and happens at the end of a hub that has
prepared the cluster. -/
theorem cleanup_tidies (hP : P.Keeps) (c : Client) : c.Tidies P where
  cleaned := cleanup_cleaned hP c
  prepared := initialise_remember
  ended history s := by
    rw [cleans_iff_armed]
    constructor
    · intro h
      obtain ⟨front, back, rfl, hback⟩ := prepared_of_armed h
      refine ⟨front, back, rfl, fun between t rest hrest => absurd ?_ (hback t)⟩
      simp [hrest]
    · rintro ⟨front, back, rfl, hback⟩
      have hprepared : (c.remembers P.answer (front ++ [.prepared])).armed = true := by
        rw [remembers_concat]
        rfl
      have hidle : ∀ between t rest, back = between ++ .ended t :: rest →
          ¬c.Cleans P.answer (front ++ [.prepared] ++ between) t := fun between t rest hrest => by
        rw [List.append_assoc]
        exact hback between t rest hrest
      have harmed := armed_of_prepared hprepared hidle
      rwa [List.append_assoc] at harmed
  performed _ s h := by rw [(exitHook_of_armed (cleans_iff_armed.1 h) s).1]
  idle _ s h := by
    rw [cleans_iff_armed, Bool.not_eq_true] at h
    exact ⟨(exitHook_of_idle h s).2, by rw [(exitHook_of_idle h s).1]⟩

/-- A cleanup during which a pod cannot be deleted, and the ends of a hub that has prepared the
cluster once. -/
theorem cleanup_tidies_failing :
    let P := listPlatform.failing
    let s := (screenAndStale, [none, some (.commandFailed "delete pod" "timeout")])
    failures P.answer (cleanup {}) s = [.deletePod "node-1"] ∧
      P.holds (run P.answer (cleanup {}) s).2 = screenOnly ∧
      Cleans P.answer {} [.looked s, .prepared] s ∧
      ¬Cleans P.answer {} [.looked s, .prepared, .ended s] s := by
  intro P s
  have htidies : Tidies P {} := cleanup_tidies Platform.listPlatform_keeps.failing {}
  have hfailures : failures P.answer (cleanup {}) s = [.deletePod "node-1"] := by decide +kernel
  refine ⟨hfailures, Inventory.ext ?_ ?_, (htidies.ended _ s).2 ⟨[.looked s], [], rfl, ?_⟩, ?_⟩
  · rw [(htidies.cleaned s).pods, hfailures]
    decide +kernel
  · rw [(htidies.cleaned s).services, hfailures]
    decide +kernel
  · intro between t rest h
    simp at h
  · rw [cleans_iff_armed]
    decide +kernel

end Client

end BrowserGrid.Cluster
