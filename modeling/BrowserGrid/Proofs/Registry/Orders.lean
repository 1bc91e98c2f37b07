import BrowserGrid.Proofs.Registry.Reservations
import BrowserGrid.Proofs.Registry.Visits
import Mathlib.Data.List.Flatten

/-!
# Which nodes are asked for

A sweep asks for a node for a request that no slot takes, and flags the request in the same section.
It keeps the order with it while it releases sessions (`carried`) and gives it out with its answer
(`Event.placed`).  Nothing but a failure reported from outside takes the flag away again.

* `orders_of_sweep`: what a sweep has found when it asks for a node.
* `System.orders_step`: where the orders of the operations come from, and that a step makes no more
  of them than it flags requests.
-/

namespace BrowserGrid.Registry

variable {ω : Type} {s : Setting ω} {callers : Callers}

/-! ### Requests without a flag -/

/-- How often a request stands in a queue without a node being started for it. -/
def unflagged (pending : List PendingRequest) (id : RequestId) : Nat :=
  pending.countP fun p => p.request.id = id && !p.provisioning

theorem unflagged_append (pending pending' : List PendingRequest) (id : RequestId) :
    unflagged (pending ++ pending') id = unflagged pending id + unflagged pending' id :=
  List.countP_append

theorem unflagged_singleton (p : PendingRequest) (id : RequestId) :
    unflagged [p] id = if p.request.id = id ∧ p.provisioning = false then 1 else 0 := by
  simp [unflagged, List.countP_singleton]

theorem unflagged_le_queuedIn (pending : List PendingRequest) (id : RequestId) :
    unflagged pending id ≤ queuedIn pending id := by
  refine List.countP_mono_left fun p _ h => ?_
  rw [Bool.and_eq_true] at h
  exact h.1

theorem unflagged_pos_of_mem {pending : List PendingRequest} {p : PendingRequest}
    (hp : p ∈ pending) (hflag : p.provisioning = false) : 0 < unflagged pending p.request.id :=
  List.countP_pos_iff.2 ⟨p, hp, by simp [hflag]⟩

/-! ### What a sweep orders -/

/-- How many nodes are asked for for a request. -/
def askedFor (requests : List Request) (id : RequestId) : Nat := requests.countP (·.id = id)

theorem Sweep.visitAll_unflagged {w w' : Sweep ω} {queue : List PendingRequest}
    (h : visitAll s callers w queue = .ok w') (id : RequestId) :
    askedFor w'.toProvision id + unflagged w'.remaining id ≤
      askedFor w.toProvision id + unflagged w.remaining id + unflagged queue id := by
  induction queue generalizing w with
  | nil =>
    cases h
    exact Nat.le_refl _
  | cons p rest ih =>
    unfold visitAll at h
    split at h
    · rename_i v hp
      have hrest := ih h
      have hqueue : unflagged (p :: rest) id = unflagged [p] id + unflagged rest id :=
        unflagged_append [p] rest id
      suffices hvisit : askedFor v.toProvision id + unflagged v.remaining id ≤
          askedFor w.toProvision id + unflagged w.remaining id + unflagged [p] id by omega
      cases decided_of_visit hp with
      | absent => exact Nat.le_add_right _ _
      | served =>
        rw [deliver_toProvision, deliver_remaining]
        exact Nat.le_add_right _ _
      | waits =>
        rcases keep_cases (s := s) { w with memory := _ } p with
          ⟨hflag, -, hremaining, hasked⟩ | ⟨hremaining, hasked⟩
        · -- the flag is set with the order, so the request changes sides
          have hset : unflagged [{ p with provisioning := true }] id = 0 := by
            simp [unflagged_singleton]
          rw [hremaining, hasked, unflagged_append, hset, askedFor, List.countP_append, ← askedFor,
            List.countP_singleton, unflagged_singleton]
          simp only [hflag, and_true, decide_eq_true_eq]
          omega
        · rw [hremaining, hasked, unflagged_append]
          exact Nat.le_of_eq (Nat.add_assoc ..).symm
    · cases h

/-- A sweep asks for no more nodes for a request than it flags entries of the request. -/
theorem sweep_unflagged (s : Setting ω) (callers : Callers) (r : Registry ω) (memory : ω)
    (id : RequestId) :
    askedFor (r.sweep s callers memory).toProvision id +
      unflagged (r.sweep s callers memory).registry.pending id ≤ unflagged r.pending id := by
  cases hstopped : r.stopped with
  | true =>
    rw [sweep_of_stopped hstopped]
    exact Nat.le_of_eq (Nat.zero_add _)
  | false =>
    obtain ⟨seen, unseen, w, hwalk⟩ := sweep_walk s callers hstopped memory
    cases hbroken : (r.sweep s callers memory).broken with
    | true =>
      rw [(hwalk.cut hbroken).1, (hwalk.cut hbroken).2]
      exact Nat.zero_le _
    | false =>
      obtain ⟨hall, hpending, hasked⟩ := hwalk.whole hbroken
      have hqueue := hwalk.queue
      have hperm : (r.pending.mergeSort before).Perm r.pending := List.mergeSort_perm ..
      have hvisits := Sweep.visitAll_unflagged hwalk.visited id
      rw [hall, List.append_nil] at hqueue
      rw [hqueue] at hperm
      have hsame : unflagged seen id = unflagged r.pending id := hperm.countP_eq _
      have hstart : askedFor (sweepStart r memory).toProvision id +
          unflagged (sweepStart r memory).remaining id = 0 := rfl
      rw [hpending, hasked]
      omega

/-- The request `q` is queued in `r` and present, `firstFree` finds nothing for it when the sweep
reaches it, and the sweep neither binds nor discards it. -/
structure Orders (s : Setting ω) (callers : Callers) (r : Registry ω) (memory : ω) (q : Request) :
    Prop where
  running : r.stopped = false
  /-- The request is queued, no node is being started for it, and at its turn no free slot takes
  it. -/
  unmatched : ∃ p ∈ r.pending, p.request = q ∧ p.provisioning = false ∧
    ∃ v memory', Reaches s callers r memory p v ∧
      v.live.firstFree q.capabilities v.memory = (.nothing, memory') ∧
      s.canProvision q.capabilities memory' = true
  present : callers.present q.id = true
  /-- The sweep binds the request to no slot. -/
  not_bound : ∀ x ∈ (r.sweep s callers memory).bound, x.requestId ≠ q.id
  /-- The sweep does not discard the request. -/
  not_discarded : q.id ∉ (r.sweep s callers memory).discarded

/-- A pass comes to each request once. -/
theorem Reaches.unique {r : Registry ω} {memory : ω} {p p' : PendingRequest} {v v' : Sweep ω}
    (hnodup : (r.pending.map (·.request.id)).Nodup) (h : Reaches s callers r memory p v)
    (h' : Reaches s callers r memory p' v') (hid : p.request.id = p'.request.id) :
    p = p' ∧ v = v' := by
  obtain ⟨seen, rest, hqueue, hv⟩ := h
  obtain ⟨seen', rest', hqueue', hv'⟩ := h'
  have hperm : (r.pending.mergeSort before).Perm r.pending := List.mergeSort_perm ..
  have hsorted := (hperm.map (·.request.id)).nodup_iff.2 hnodup
  have hat : ∀ {front back : List PendingRequest} {q : PendingRequest},
      r.pending.mergeSort before = front ++ q :: back →
        ((r.pending.mergeSort before).map (·.request.id))[front.length]? = some q.request.id :=
    fun h => by simp [h]
  -- the identities in the queue differ, so the two stand at one place
  have hlength : seen.length = seen'.length :=
    (List.getElem?_inj (List.getElem?_eq_some_iff.1 (hat hqueue)).1 hsorted).1
      ((hat hqueue).trans (hid ▸ (hat hqueue').symm))
  obtain ⟨rfl, hrest⟩ := List.append_inj (hqueue.symm.trans hqueue') hlength
  obtain ⟨rfl, -⟩ := List.cons.inj hrest
  rw [hv] at hv'
  exact ⟨rfl, Except.ok.inj hv'⟩

theorem discarded_absent {r : Registry ω} {memory : ω} {id : RequestId}
    (h : id ∈ (r.sweep s callers memory).discarded) : callers.present id = false := by
  cases hstopped : r.stopped with
  | true =>
    rw [sweep_of_stopped hstopped] at h
    exact absurd h List.not_mem_nil
  | false =>
    obtain ⟨seen, unseen, w, hwalk⟩ := sweep_walk s callers hstopped memory
    rw [hwalk.discarded_eq] at h
    obtain ⟨p, v, v', -, hdecided, hv, hv'⟩ :=
      hwalk.exists_reaches (P := (id ∈ ·.discarded)) List.not_mem_nil h
    cases hdecided with
    | absent habsent =>
      rw [List.mem_singleton.1 ((List.mem_append.1 hv').resolve_left hv)]
      exact habsent
    | served =>
      rw [Sweep.deliver_discarded] at hv'
      exact absurd hv' hv
    | waits =>
      rw [Sweep.keep_discarded] at hv'
      exact absurd hv' hv

/-- A sweep asks for a node for a request that is queued and that no slot takes, and it does nothing
else with the request. -/
theorem orders_of_sweep {r : Registry ω} {memory : ω} {q : Request}
    (hnodup : (r.pending.map (·.request.id)).Nodup)
    (hq : q ∈ (r.sweep s callers memory).toProvision) : Orders s callers r memory q := by
  obtain ⟨hrunning, p, v, memory', hreaches, rfl, hflag, hpresent, hnothing, hable⟩ :=
    toProvision_reached hq
  constructor
  case running => exact hrunning
  case unmatched =>
    exact ⟨p, hreaches.mem_pending, rfl, hflag, v, memory', hreaches, hnothing, hable⟩
  case present => exact hpresent
  case not_bound =>
    intro x hx hid
    obtain ⟨p', v', slot, offered, m, hreaches', -, hfound, rfl⟩ := bound_reached hx
    -- the pass comes to the request once, and finds a slot or finds none
    obtain ⟨rfl, rfl⟩ := hreaches.unique hnodup hreaches' hid.symm
    rw [hnothing] at hfound
    cases hfound
  case not_discarded =>
    intro hmem
    rw [discarded_absent hmem] at hpresent
    cases hpresent

/-! ### Orders on their way -/

/-- A node that a sweep has asked for. -/
structure Order where
  /-- The number of the sweep. -/
  sweep : Nat
  request : Request
  deriving DecidableEq

/-- The requests for which a sweep will have nodes started when it is over. -/
def Call.toProvision : Call ω → List Request
  | .returning _ requests | .retiring _ _ requests => requests
  | _ => []

/-- The requests for which nodes are to be started after a section. -/
def Next.toProvision : Next ω → List Request
  | .waits call => call.toProvision
  | .answers (.swept requests) => requests
  | .answers _ => []

/-- The orders that sweeps under way have not given out yet. -/
def carried (calls : List (Underway ω)) : List Order :=
  calls.flatMap fun c => c.call.toProvision.map (⟨c.ticket, ·⟩)

/-- The orders that an event gives out. -/
def Event.placed : Event ω → List Order
  | .answered ticket _ (.swept requests) => requests.map (⟨ticket, ·⟩)
  | _ => []

/-- How many orders are for a request. -/
def ordersFor (orders : List Order) (id : RequestId) : Nat := orders.countP (·.request.id = id)

theorem ordersFor_append (orders orders' : List Order) (id : RequestId) :
    ordersFor (orders ++ orders') id = ordersFor orders id + ordersFor orders' id :=
  List.countP_append

theorem ordersFor_map (ticket : Nat) (requests : List Request) (id : RequestId) :
    ordersFor (requests.map (⟨ticket, ·⟩)) id = askedFor requests id := by
  rw [ordersFor, List.countP_map]
  rfl

theorem ordersFor_pos_of_mem {orders : List Order} {o : Order} (ho : o ∈ orders) :
    0 < ordersFor orders o.request.id :=
  List.countP_pos_iff.2 ⟨o, ho, by simp⟩

theorem carried_append (calls more : List (Underway ω)) :
    carried (calls ++ more) = carried calls ++ carried more :=
  List.flatMap_append

/-- A section leaves its orders with its operation, or gives them out. -/
theorem carried_placed (turn : Turn ω) (ticket : Nat) (op : Operation ω) :
    carried (turn.next.calls ticket op) ++ (turn.events ticket op).flatMap Event.placed =
      turn.next.toProvision.map (⟨ticket, ·⟩) := by
  have hnews : (turn.news.map (Event.reported ticket op)).flatMap Event.placed = [] := by
    rw [List.flatMap_map]
    exact List.flatMap_eq_nil_iff.2 fun _ _ => rfl
  rw [Turn.events, List.flatMap_append, hnews, List.nil_append, List.flatMap_singleton]
  cases turn.next with
  | waits call =>
    show carried [⟨ticket, op, call⟩] ++ [] = call.toProvision.map _
    rw [carried, List.flatMap_singleton, List.append_nil]
  | answers answer => cases answer <;> rfl

theorem afterReturn_toProvision (keys : List SessionKey) (requests : List Request) :
    (afterReturn keys requests : Next ω).toProvision = requests := by
  unfold afterReturn
  split <;> rfl

theorem releaseTurn_toProvision {r : Registry ω} {memory : ω} {key : SessionKey}
    {reason : Termination} {spent : Session → Proxy ω → Call ω} {after : Option Session → Next ω}
    {requests : List Request} (hspent : ∀ x p, (spent x p).toProvision = requests)
    (hafter : ∀ x, (after x).toProvision = requests) :
    (releaseTurn r memory key reason spent after).next.toProvision = requests := by
  rcases releaseTurn_next_cases r memory key reason spent after with ⟨x, h⟩ | ⟨x, p, h⟩ <;> rw [h]
  · exact hafter x
  · exact hspent x p

theorem start_sweep_toProvision (s : Setting ω) (callers : Callers) (r : Registry ω) (memory : ω) :
    (Operation.sweep.start s callers r memory).next.toProvision =
      (r.sweep s callers memory).toProvision := by
  unfold Operation.start
  dsimp only
  split
  · rename_i hbroken
    cases hstopped : r.stopped with
    | true =>
      rw [sweep_of_stopped hstopped]
      rfl
    | false =>
      obtain ⟨_, _, _, hwalk⟩ := sweep_walk s callers hstopped memory
      rw [(hwalk.cut hbroken).2]
      rfl
  · exact afterReturn_toProvision _ _

theorem start_toProvision {op : Operation ω} (hop : op ≠ .sweep) (callers : Callers)
    (r : Registry ω) (memory : ω) : (op.start s callers r memory).next.toProvision = [] := by
  have hbegins := start_begins s callers r memory op
  generalize op.start s callers r memory = turn at hbegins ⊢
  cases hbegins with
  | broken | swept | returning => exact absurd rfl hop
  | released key reason => exact releaseTurn_toProvision (fun _ _ => rfl) fun _ => rfl
  | @replaced p stale r' h => cases keepsBacking stale.proxy p <;> rfl
  | refused | staged | missing | removed | vacant | occupied | halted | stopped => rfl

theorem resume_toProvision (r : Registry ω) (memory : ω) (prepared : Bool) (c : Call ω) :
    (c.resume r memory prepared).next.toProvision = c.toProvision := by
  cases c with
  | preparing new =>
    unfold Call.resume
    dsimp only
    split <;> rfl
  | forcing key reason => exact releaseTurn_toProvision (fun _ _ => rfl) fun _ => rfl
  | returning keys requests =>
    cases keys with
    | nil => rfl
    | cons key keys =>
      exact releaseTurn_toProvision (fun _ _ => rfl) fun _ => afterReturn_toProvision _ _
  | retiring spent keys requests => exact afterReturn_toProvision _ _
  | clearing | discarding | removing | releasing | stopping => rfl

/-- A section takes no flag away. -/
theorem Section.unflagged_le {r r' : Registry ω} {freed : Option ProxyId} {news : List News}
    (h : Section s callers r freed r' news) (id : RequestId) :
    unflagged r'.pending id ≤ unflagged r.pending id := by
  cases h with
  | idle => exact Nat.le_refl _
  | released h =>
    obtain ⟨_, _, _, rfl⟩ := release_eq h
    exact Nat.le_refl _
  | removed h =>
    obtain ⟨_, _, _, rfl⟩ := removeProxy_eq h
    exact Nat.le_refl _
  | staged h =>
    obtain ⟨_, rfl⟩ := eq_of_removeProxy_none (stage_eq h).2.2
    exact Nat.le_refl _
  | replaced h =>
    obtain ⟨_, _, _, rfl⟩ := removeProxy_eq (stage_eq h).2.2
    exact Nat.le_refl _
  | promoted h =>
    obtain ⟨_, rfl⟩ := promote_eq h
    exact Nat.le_refl _
  | swept memory =>
    have hsweep := sweep_unflagged s callers r memory id
    omega
  | stopped h =>
    obtain ⟨_, _, _, rfl⟩ := stop_eq h
    exact Nat.zero_le _

/-! ### Steps -/

namespace System

variable {σ τ : System ω}

/-- What a step does to the orders: those that are carried or given out after it were carried before
it, or a sweep that begins makes them, and it makes no more of them than it flags requests. -/
structure Ordered (s : Setting ω) (σ τ : System ω) (a : Action ω) (events : List (Event ω)) :
    Prop where
  history : τ.history = σ.history ++ events
  origin : ∀ o ∈ carried τ.calls ++ events.flatMap Event.placed, o ∈ carried σ.calls ∨
    ∃ d, a = .begin .sweep d ∧ o.sweep = σ.begun ∧
      o.request ∈ (σ.registry.sweep s (d.callers σ.mailboxes) σ.memory).toProvision
  balance : ∀ id, unflagged τ.registry.pending id +
      (ordersFor (carried τ.calls) id + ordersFor (events.flatMap Event.placed) id) ≤
    unflagged σ.registry.pending id + ordersFor (carried σ.calls) id +
      (events.filterMap Event.admitted?).count id

theorem Ordered.of_aside {a : Action ω} {events : List (Event ω)}
    (hhistory : τ.history = σ.history ++ events) (hcalls : τ.calls.Sublist σ.calls)
    (hplaced : events.flatMap Event.placed = [])
    (hqueue : ∀ id, unflagged τ.registry.pending id ≤
      unflagged σ.registry.pending id + (events.filterMap Event.admitted?).count id) :
    Ordered s σ τ a events where
  history := hhistory
  origin := by
    intro o ho
    rw [hplaced, List.append_nil] at ho
    exact .inl ((hcalls.flatMap _).subset ho)
  balance := by
    intro id
    have hcarried : ordersFor (carried τ.calls) id ≤ ordersFor (carried σ.calls) id :=
      (hcalls.flatMap _).countP_le
    have hqueue := hqueue id
    rw [hplaced]
    show _ + (_ + 0) ≤ _
    omega

/-- A step that leaves the queue and the history alone. -/
theorem Ordered.of_still {a : Action ω} (hhistory : τ.history = σ.history)
    (hcalls : τ.calls = σ.calls) (hpending : τ.registry.pending = σ.registry.pending) :
    Ordered s σ τ a [] :=
  .of_aside (hhistory.trans (List.append_nil _).symm) (by rw [hcalls]) rfl
    fun _ => by rw [hpending]; exact Nat.le_refl _

theorem Ordered.of_withdrawal {a : Action ω} (id : RequestId) (own : Bool)
    (hregistry : τ.registry = (σ.registry.withdraw id).2) (hcalls : τ.calls = σ.calls)
    (hhistory : τ.history = σ.history ++ [.withdrawal id own (σ.registry.withdraw id).1]) :
    Ordered s σ τ a [.withdrawal id own (σ.registry.withdraw id).1] := by
  refine .of_aside hhistory (by rw [hcalls]) rfl fun other => ?_
  rw [hregistry]
  exact List.filter_sublist.countP_le

theorem ordered_afterSubmit (σ : System ω) (requested : Capabilities) (a : Action ω) :
    ∃ events, Ordered s σ (σ.afterSubmit s requested) a events := by
  rcases submit_cases s σ.registry requested σ.memory with ⟨error, m, h⟩ | ⟨m, -, h⟩
  · refine ⟨[.submitted (.error error)], .of_aside ?_ (.refl _) rfl fun id => ?_⟩
    · rw [afterSubmit, h]
    · rw [afterSubmit, h]
      exact Nat.le_add_right _ _
  · refine ⟨[.submitted (.ok (nextRequest s σ.registry requested).id)],
      .of_aside ?_ (.refl _) rfl fun id => ?_⟩
    · rw [afterSubmit, h]
    · rw [afterSubmit, h]
      show unflagged (σ.registry.pending ++ [_]) id ≤ _
      rw [unflagged_append, unflagged_singleton]
      show _ ≤ _ + List.count id [(nextRequest s σ.registry requested).id]
      rw [List.count_singleton]
      simp only [beq_iff_eq, and_true]
      exact Nat.le_refl _

theorem ordered_afterTurn {calls : List (Underway ω)} {turn : Turn ω} {ticket : Nat}
    {op : Operation ω} (hcalls : τ.calls = calls ++ turn.next.calls ticket op) (id : RequestId) :
    ordersFor (carried τ.calls) id +
        ordersFor ((turn.events ticket op).flatMap Event.placed) id =
      ordersFor (carried calls) id + askedFor turn.next.toProvision id := by
  rw [hcalls, carried_append, ordersFor_append, Nat.add_assoc, ← ordersFor_append, carried_placed,
    ordersFor_map]

theorem mem_afterTurn {calls : List (Underway ω)} {turn : Turn ω} {ticket : Nat} {op : Operation ω}
    (hcalls : τ.calls = calls ++ turn.next.calls ticket op) {o : Order}
    (ho : o ∈ carried τ.calls ++ (turn.events ticket op).flatMap Event.placed) :
    o ∈ carried calls ∨ o.sweep = ticket ∧ o.request ∈ turn.next.toProvision := by
  rw [hcalls, carried_append, List.append_assoc, carried_placed] at ho
  rcases List.mem_append.1 ho with ho | ho
  · exact .inl ho
  · obtain ⟨q, hq, rfl⟩ := List.mem_map.1 ho
    exact .inr ⟨rfl, hq⟩

theorem ordered_afterBegin (σ : System ω) (op : Operation ω) (d : Departures) :
    ∃ events, Ordered s σ (σ.afterBegin s op d) (.begin op d) events := by
  have hcalls : (σ.afterBegin s op d).calls = σ.calls ++
      (op.start s (d.callers σ.mailboxes) σ.registry σ.memory).next.calls σ.begun op := rfl
  refine ⟨(op.start s (d.callers σ.mailboxes) σ.registry σ.memory).events σ.begun op, rfl, ?_, ?_⟩
  · intro o ho
    rcases mem_afterTurn hcalls ho with ho | ⟨hsweep, hq⟩
    · exact .inl ho
    · by_cases hop : op = .sweep
      · subst hop
        rw [start_sweep_toProvision] at hq
        exact .inr ⟨d, rfl, hsweep, hq⟩
      · rw [start_toProvision hop] at hq
        exact absurd hq List.not_mem_nil
  · intro id
    have horders := ordered_afterTurn hcalls id
    have hsection := start_section (s := s) (d.callers σ.mailboxes) σ.registry σ.memory op
    have hle : unflagged (σ.afterBegin s op d).registry.pending id ≤
        unflagged σ.registry.pending id := hsection.unflagged_le id
    rw [horders, filterMap_admitted?_events]
    show _ ≤ _ + 0
    by_cases hop : op = .sweep
    · subst hop
      have hsweep : askedFor (σ.registry.sweep s (d.callers σ.mailboxes) σ.memory).toProvision id +
          unflagged (σ.afterBegin s .sweep d).registry.pending id ≤
            unflagged σ.registry.pending id := sweep_unflagged s _ σ.registry σ.memory id
      rw [start_sweep_toProvision]
      omega
    · rw [start_toProvision hop]
      show _ + (_ + 0) ≤ _
      omega

theorem ordered_afterResume (hσ : σ.Numbered) {ticket : Nat} {c : Underway ω}
    (hc : σ.call? ticket = some c) (prepared : Bool) (a : Action ω) :
    ∃ events, Ordered s σ ((σ.without ticket).afterTurn ticket c.operation
      (c.call.resume σ.registry σ.memory prepared)) a events := by
  obtain ⟨hmem, rfl⟩ := mem_of_call? hc
  have hcalls : ((σ.without c.ticket).afterTurn c.ticket c.operation
      (c.call.resume σ.registry σ.memory prepared)).calls = (σ.without c.ticket).calls ++
        (c.call.resume σ.registry σ.memory prepared).next.calls c.ticket c.operation := rfl
  have hperm : (carried σ.calls).Perm
      (c.call.toProvision.map (⟨c.ticket, ·⟩) ++ carried (σ.without c.ticket).calls) :=
    (hσ.calls_perm hmem).flatMap_right _
  refine ⟨(c.call.resume σ.registry σ.memory prepared).events c.ticket c.operation, rfl, ?_, ?_⟩
  · intro o ho
    refine .inl (hperm.mem_iff.2 ?_)
    rcases mem_afterTurn hcalls ho with ho | ⟨hsweep, hq⟩
    · exact List.mem_append_right _ ho
    · rw [resume_toProvision] at hq
      refine List.mem_append_left _ (List.mem_map.2 ⟨o.request, hq, ?_⟩)
      rw [← hsweep]
  · intro id
    have horders := ordered_afterTurn hcalls id
    have hsection := resume_section s everybody σ.registry σ.memory prepared c.call
    have hle : unflagged ((σ.without c.ticket).afterTurn c.ticket c.operation
        (c.call.resume σ.registry σ.memory prepared)).registry.pending id ≤
          unflagged σ.registry.pending id := hsection.unflagged_le id
    have hcarried : ordersFor (carried σ.calls) id =
        askedFor c.call.toProvision id + ordersFor (carried (σ.without c.ticket).calls) id := by
      rw [← ordersFor_map c.ticket, ← ordersFor_append]
      exact hperm.countP_eq _
    rw [horders, resume_toProvision, filterMap_admitted?_events]
    show _ ≤ _ + 0
    omega

/-- Every step but the report of a failure. -/
theorem orders_step (hσ : σ.Numbered) {a : Action ω} (ha : ∀ id, a ≠ .provisioningFailed id) :
    ∃ events, Ordered s σ (step s σ a) a events := by
  cases a with
  | submit requested => exact ordered_afterSubmit σ requested _
  | withdraw id => exact ⟨_, .of_withdrawal id false rfl rfl rfl⟩
  | activate key externalKey =>
    refine ⟨[], .of_still rfl rfl ?_⟩
    show (σ.registry.activate key externalKey).2.pending = σ.registry.pending
    rcases activate_cases σ.registry key externalKey with h | ⟨_, _, h⟩ <;> rw [h]
  | provisioningFailed id => exact absurd rfl (ha id)
  | begin op d => exact ordered_afterBegin σ op d
  | resume ticket prepared =>
    rw [step, afterResume]
    cases hc : σ.call? ticket with
    | some c => exact ordered_afterResume hσ hc prepared _
    | none => exact ⟨[], .of_still rfl rfl rfl⟩
  | abandon ticket =>
    rw [step, afterAbandon]
    split
    · exact ⟨_, .of_aside rfl (without_sublist σ ticket) rfl fun _ => Nat.le_refl _⟩
    · exact ⟨[], .of_still rfl rfl rfl⟩
  | wait id timeout =>
    rw [step, afterWait]
    split <;> exact ⟨[], .of_still rfl rfl rfl⟩
  | receive id =>
    rw [step, afterReceive]
    split
    · split <;> exact ⟨[], .of_still rfl rfl rfl⟩
    · exact ⟨[], .of_still rfl rfl rfl⟩
  | expire id =>
    rw [step, afterExpire]
    split <;> exact ⟨[], .of_still rfl rfl rfl⟩
  | giveUp id =>
    rw [step, afterGiveUp]
    split
    · dsimp only
      split <;> exact ⟨_, .of_withdrawal id true rfl rfl rfl⟩
    · exact ⟨[], .of_still rfl rfl rfl⟩
  | depart id => exact ⟨[], .of_still rfl rfl rfl⟩
  | remember memory => exact ⟨[], .of_still rfl rfl rfl⟩

end System

end BrowserGrid.Registry
