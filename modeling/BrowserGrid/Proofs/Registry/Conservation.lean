import BrowserGrid.Proofs.Registry.Moves
import Mathlib.Data.List.Nodup

/-!
# Requests are conserved

A request that was admitted stands in the queue once, or has left it once.  `System.fates` lists
both, so the statement is that its length is the number of admissions.

* `Sweep.Visits.balance`: what a pass over the queue has visited it has kept, bound or discarded.
* `Section.balance`: what a section takes out of the queue it reports.
* `System.conserved_run`: along a run every admitted request has one fate.
* `System.Conserved.fates_final`: the fate is final once the request has left the queue.
-/

namespace BrowserGrid.Registry

variable {ω : Type} {s : Setting ω} {callers : Callers}

/-! ### Counting in the queue -/

/-- How often a request stands in a queue. -/
def queuedIn (pending : List PendingRequest) (id : RequestId) : Nat :=
  pending.countP (·.request.id = id)

@[simp] theorem queuedIn_nil (id : RequestId) : queuedIn [] id = 0 := rfl

theorem queuedIn_append (pending pending' : List PendingRequest) (id : RequestId) :
    queuedIn (pending ++ pending') id = queuedIn pending id + queuedIn pending' id :=
  List.countP_append

theorem queuedIn_singleton (p : PendingRequest) (id : RequestId) :
    queuedIn [p] id = if p.request.id = id then 1 else 0 := by
  simp [queuedIn, List.countP_singleton]

theorem queuedIn_perm {pending pending' : List PendingRequest} (h : pending.Perm pending')
    (id : RequestId) : queuedIn pending id = queuedIn pending' id :=
  h.countP_eq _

theorem queuedIn_map {f : PendingRequest → PendingRequest}
    (hf : ∀ p, (f p).request = p.request) (pending : List PendingRequest) (id : RequestId) :
    queuedIn (pending.map f) id = queuedIn pending id := by
  rw [queuedIn, List.countP_map]
  refine List.countP_congr fun p _ => ?_
  simp [hf]

theorem count_map_id (pending : List PendingRequest) (id : RequestId) :
    (pending.map (·.request.id)).count id = queuedIn pending id := by
  rw [List.count, List.countP_map, queuedIn]
  refine List.countP_congr fun p _ => ?_
  simp

/-- What a withdrawal leaves in the queue: everything but the request. -/
theorem queuedIn_withdraw (r : Registry ω) (id other : RequestId) :
    queuedIn (r.withdraw id).2.pending other =
      if other = id then 0 else queuedIn r.pending other := by
  rw [withdraw, queuedIn, List.countP_filter]
  split
  · rename_i heq
    refine List.countP_eq_zero.2 fun p _ => ?_
    simp [heq]
  · rename_i hne
    refine List.countP_congr fun p _ => ?_
    simp only [Bool.and_eq_true, decide_eq_true_eq, and_iff_left_iff_imp]
    exact fun heq hid => hne (heq.symm.trans hid)

/-- A withdrawal finds the request if it is in the queue. -/
theorem withdraw_found (r : Registry ω) (id : RequestId) :
    (r.withdraw id).1 = true ↔ 0 < queuedIn r.pending id := by
  -- a withdrawal compares the lengths of the queue before and after it
  have hlength : (r.pending.filter (·.request.id ≠ id)).length + queuedIn r.pending id =
      r.pending.length := by
    rw [← List.countP_eq_length_filter, queuedIn, Nat.add_comm]
    have hsplit := List.length_eq_countP_add_countP (l := r.pending) (p := (·.request.id = id))
    simp only [decide_not, Bool.decide_eq_true] at hsplit ⊢
    omega
  rw [withdraw]
  simp only [decide_eq_true_eq]
  omega

/-! ### Counting what is reported -/

@[simp] theorem filterMap_fate?_ended (id : RequestId) (xs : List Session) :
    (xs.map News.ended).filterMap (News.fate? id) = [] := by
  rw [List.filterMap_map]
  exact List.filterMap_eq_nil_iff.2 fun _ _ => rfl

@[simp] theorem filterMap_fate?_delivered (id : RequestId) (xs : List Session) :
    (xs.map News.delivered).filterMap (News.fate? id) = [] := by
  rw [List.filterMap_map]
  exact List.filterMap_eq_nil_iff.2 fun _ _ => rfl

theorem length_filterMap_fate?_bound (id : RequestId) (xs : List Session) :
    ((xs.map News.bound).filterMap (News.fate? id)).length = xs.countP (·.requestId = id) := by
  rw [List.filterMap_map, List.length_filterMap_eq_countP]
  refine List.countP_congr fun x _ => ?_
  by_cases h : x.requestId = id <;> simp [News.fate?, h]

theorem length_filterMap_fate?_dropped (id : RequestId) (ids : List RequestId) (why : Discard) :
    ((ids.map (News.dropped · why)).filterMap (News.fate? id)).length = ids.count id := by
  rw [List.filterMap_map, List.length_filterMap_eq_countP, List.count]
  refine List.countP_congr fun other _ => ?_
  by_cases h : other = id <;> simp [News.fate?, h]

theorem length_filterMap_fate?_news (id : RequestId) (result : SweepResult ω) :
    (result.news.filterMap (News.fate? id)).length =
      result.bound.countP (·.requestId = id) + result.discarded.count id +
        result.lost.count id := by
  rw [SweepResult.news, List.filterMap_append, List.filterMap_append, List.filterMap_append,
    filterMap_fate?_delivered, List.append_nil, List.length_append, List.length_append,
    length_filterMap_fate?_bound, length_filterMap_fate?_dropped,
    length_filterMap_fate?_dropped]

/-! ### A pass over the queue -/

namespace Sweep

/-- How often a sweep under way has seen a request: it has kept, bound or discarded it. -/
def seenOf (w : Sweep ω) (id : RequestId) : Nat :=
  queuedIn w.remaining id + w.bound.countP (·.requestId = id) + w.discarded.count id

theorem Visited.balance {w w' : Sweep ω} {p : PendingRequest} (h : Visited s callers w p w')
    (id : RequestId) : w'.seenOf id = w.seenOf id + queuedIn [p] id := by
  cases h with
  | discarded =>
    rw [seenOf, seenOf, List.count_append, List.count_singleton, queuedIn_singleton]
    simp only [beq_iff_eq]
    omega
  | kept _ memory q toProvision hq =>
    rw [seenOf, seenOf, queuedIn_append, queuedIn_singleton, queuedIn_singleton, hq]
    dsimp only
    omega
  | refused =>
    rw [seenOf, seenOf, queuedIn_append]
    dsimp only
    omega
  | bound _ memory slot offered live =>
    rw [seenOf, seenOf, deliver_remaining, deliver_bound, deliver_discarded, withSession,
      List.countP_append, List.countP_singleton, queuedIn_singleton]
    have hrequest : (nextSession s w p slot offered).requestId = p.request.id := rfl
    -- the request is counted once more among the bound ones, and not among the remaining
    by_cases hid : p.request.id = id
    · simp only [hrequest, hid, decide_true, if_true]
      omega
    · simp only [hrequest, hid, decide_false, Bool.false_eq_true, if_false]
      omega

theorem Visits.balance {w w' : Sweep ω} {seen : List PendingRequest}
    (h : Visits s callers w seen w') (id : RequestId) :
    w'.seenOf id = w.seenOf id + queuedIn seen id := by
  induction h with
  | nil => rw [queuedIn_nil, Nat.add_zero]
  | snoc _ hp ih => rw [hp.balance id, ih, queuedIn_append, Nat.add_assoc]

end Sweep

theorem sweep_balance (s : Setting ω) (callers : Callers) (r : Registry ω) (memory : ω)
    (id : RequestId) :
    queuedIn (r.sweep s callers memory).registry.pending id +
      ((r.sweep s callers memory).news.filterMap (News.fate? id)).length =
        queuedIn r.pending id := by
  rw [length_filterMap_fate?_news]
  cases hstopped : r.stopped with
  | true =>
    rw [sweep_of_stopped hstopped]
    rfl
  | false =>
    obtain ⟨seen, unseen, w, hpassed⟩ := sweep_passed s callers hstopped memory
    have hqueue := queuedIn_perm hpassed.queue id
    have hbalance := hpassed.visits.balance id
    have hstart : (sweepStart r memory).seenOf id = 0 := rfl
    rw [queuedIn_append] at hqueue
    rw [hstart, Sweep.seenOf] at hbalance
    rw [hpassed.registry_eq, hpassed.bound_eq, hpassed.discarded_eq, hpassed.lost_eq]
    -- what a broken pass has not bound or discarded it loses; otherwise it is put back
    cases hbroken : (r.sweep s callers memory).broken with
    | true =>
      simp only [if_true, queuedIn_nil, count_map_id, queuedIn_append]
      omega
    | false =>
      rw [hpassed.unseen_eq hbroken, queuedIn_nil] at hqueue
      simp only [Bool.false_eq_true, if_false, List.count_nil]
      omega

/-! ### Sections -/

/-- What a section takes out of the queue it reports. -/
theorem Section.balance {r r' : Registry ω} {freed : Option ProxyId} {news : List News}
    (h : Section s callers r freed r' news) (id : RequestId) :
    queuedIn r'.pending id + (news.filterMap (News.fate? id)).length = queuedIn r.pending id := by
  cases h with
  | idle => rfl
  | released h =>
    obtain ⟨_, _, _, rfl⟩ := release_eq h
    rfl
  | removed h =>
    obtain ⟨_, _, _, rfl⟩ := removeProxy_eq h
    rw [List.filterMap_append, filterMap_fate?_ended]
    rfl
  | staged h =>
    obtain ⟨_, rfl⟩ := eq_of_removeProxy_none (stage_eq h).2.2
    rfl
  | replaced h =>
    obtain ⟨_, _, _, rfl⟩ := removeProxy_eq (stage_eq h).2.2
    rw [List.filterMap_append, filterMap_fate?_ended]
    rfl
  | @promoted _ _ outcome _ h =>
    obtain ⟨_, rfl⟩ := promote_eq h
    split <;> rfl
  | swept memory => exact sweep_balance s callers r memory id
  | stopped h =>
    obtain ⟨_, hcancelled, _, rfl⟩ := stop_eq h
    rw [List.filterMap_append, filterMap_fate?_ended, List.append_nil,
      length_filterMap_fate?_dropped, hcancelled, count_map_id, queuedIn_nil, Nat.zero_add]

/-- A session among the sessions was there before, or is reported. -/
theorem Section.origin {r r' : Registry ω} {freed : Option ProxyId} {news : List News}
    (h : Section s callers r freed r' news) {x : Session} (hx : x ∈ r'.active) :
    x ∈ r.active ∨ x ∈ news.filterMap News.bound? := by
  cases h with
  | idle => exact .inl hx
  | released h =>
    obtain ⟨_, _, _, rfl⟩ := release_eq h
    exact .inl (mem_forget.1 hx).1
  | removed h =>
    obtain ⟨_, _, _, rfl⟩ := removeProxy_eq h
    exact .inl (mem_foldl_forget.1 hx).1
  | staged h =>
    obtain ⟨_, rfl⟩ := eq_of_removeProxy_none (stage_eq h).2.2
    exact .inl hx
  | replaced h =>
    obtain ⟨_, _, _, rfl⟩ := removeProxy_eq (stage_eq h).2.2
    exact .inl (mem_foldl_forget.1 hx).1
  | promoted h =>
    obtain ⟨_, rfl⟩ := promote_eq h
    exact .inl hx
  | swept memory =>
    cases hstopped : r.stopped with
    | true =>
      rw [sweep_of_stopped hstopped] at hx
      exact .inl hx
    | false =>
      obtain ⟨_, _, w, hpassed⟩ := sweep_passed s callers hstopped memory
      obtain ⟨xs, hactive, hbound⟩ := hpassed.visits.active_eq
      rw [filterMap_bound?_news, hpassed.bound_eq, hbound]
      rw [hpassed.registry_eq] at hx
      exact List.mem_append.1 (hactive ▸ hx)
  | stopped h =>
    obtain ⟨_, _, _, rfl⟩ := stop_eq h
    exact absurd hx List.not_mem_nil

/-! ### Runs -/

namespace System

theorem length_fates (σ : System ω) (id : RequestId) :
    (σ.fates id).length =
      queuedIn σ.registry.pending id + (σ.history.filterMap (Event.fate? id)).length := by
  rw [fates, List.length_append, List.length_map, queuedIn, List.countP_eq_length_filter]

theorem filterMap_fate?_events (turn : Turn ω) (ticket : Nat) (op : Operation ω)
    (id : RequestId) :
    (turn.events ticket op).filterMap (Event.fate? id) = turn.news.filterMap (News.fate? id) := by
  have hlast : (turn.next.event ticket op).fate? id = none := by
    cases turn.next <;> rfl
  rw [Turn.events, List.filterMap_append, List.filterMap_cons_none hlast, List.filterMap_nil,
    List.append_nil, List.filterMap_map]
  congr 1

theorem filterMap_admitted?_events (turn : Turn ω) (ticket : Nat) (op : Operation ω) :
    (turn.events ticket op).filterMap Event.admitted? = [] := by
  refine List.filterMap_eq_nil_iff.2 fun e he => ?_
  rcases List.mem_append.1 he with he | he
  · obtain ⟨n, _, rfl⟩ := List.mem_map.1 he
    rfl
  · rw [List.mem_singleton.1 he]
    cases turn.next <;> rfl

/-- Every admission is accounted for, and every session among the sessions has been created. -/
structure Conserved (σ : System ω) : Prop where
  /-- A request has as many fates as it has been admitted. -/
  balance : ∀ id, (σ.fates id).length = σ.admitted.count id
  /-- A session has been created, with its key, for its request. -/
  origin : ∀ x ∈ σ.registry.active, ∃ y ∈ σ.created, y.key = x.key ∧ y.requestId = x.requestId

theorem Conserved.initial (memory : ω) : (System.initial memory).Conserved where
  balance := fun _ => rfl
  origin := fun _ hx => absurd hx List.not_mem_nil

theorem Conserved.of_section {σ τ : System ω} (hσ : σ.Conserved) {freed : Option ProxyId}
    {turn : Turn ω} {ticket : Nat} {op : Operation ω}
    (hsection : Section s callers σ.registry freed turn.registry turn.news)
    (hregistry : τ.registry = turn.registry)
    (hhistory : τ.history = σ.history ++ turn.events ticket op) : τ.Conserved where
  balance := fun id => by
    have hold := hσ.balance id
    have hsection := hsection.balance id
    rw [length_fates] at hold ⊢
    rw [hregistry, hhistory, List.filterMap_append, filterMap_fate?_events, List.length_append,
      admitted, hhistory, List.filterMap_append, filterMap_admitted?_events, List.append_nil,
      ← admitted]
    omega
  origin := fun x hx => by
    rw [hregistry] at hx
    rw [created, hhistory, List.filterMap_append, filterMap_bound?_events, ← created]
    rcases hsection.origin hx with hx | hx
    · obtain ⟨y, hy, hxy⟩ := hσ.origin x hx
      exact ⟨y, List.mem_append_left _ hy, hxy⟩
    · exact ⟨x, List.mem_append_right _ hx, rfl, rfl⟩

/-- A step that reports nothing and leaves the queue as it is, up to provisioning. -/
theorem Conserved.congr {σ τ : System ω} (hσ : σ.Conserved) (events : List (Event ω))
    (hhistory : τ.history = σ.history ++ events)
    (hfates : ∀ id, events.filterMap (Event.fate? id) = [])
    (hadmitted : events.filterMap Event.admitted? = [])
    (hqueue : ∀ id, queuedIn τ.registry.pending id = queuedIn σ.registry.pending id)
    (hactive : ∀ x ∈ τ.registry.active, ∃ y ∈ σ.registry.active,
      y.key = x.key ∧ y.requestId = x.requestId) : τ.Conserved where
  balance := fun id => by
    rw [length_fates, hqueue, hhistory, List.filterMap_append, hfates, List.append_nil,
      ← length_fates, hσ.balance, admitted_append hhistory, hadmitted, List.append_nil]
  origin := fun x hx => by
    obtain ⟨y, hy, hkey, hrequest⟩ := hactive x hx
    obtain ⟨z, hz, hkey', hrequest'⟩ := hσ.origin y hy
    rw [created_append hhistory]
    exact ⟨z, List.mem_append_left _ hz, hkey'.trans hkey, hrequest'.trans hrequest⟩

theorem Conserved.of_admitted {σ τ : System ω} (hσ : σ.Conserved) {request : Request}
    (hregistry : τ.registry = σ.registry.enqueue request)
    (hhistory : τ.history = σ.history ++ [.submitted (.ok request.id)]) : τ.Conserved where
  balance := fun id => by
    have hold := hσ.balance id
    have hevents : [Event.submitted (.ok request.id)].filterMap (Event.fate? (ω := ω) id) = [] :=
      rfl
    rw [length_fates] at hold ⊢
    rw [hregistry, enqueue, queuedIn_append, queuedIn_singleton, hhistory,
      List.filterMap_append, hevents, List.append_nil, admitted_append hhistory,
      List.count_append]
    have hcount : ([Event.submitted (.ok request.id)].filterMap
        (Event.admitted? (ω := ω))).count id = if request.id = id then 1 else 0 := by
      simp [Event.admitted?, List.count_singleton]
    rw [hcount]
    dsimp only
    omega
  origin := fun x hx => by
    rw [hregistry] at hx
    rw [created_append hhistory]
    obtain ⟨y, hy, hxy⟩ := hσ.origin x hx
    exact ⟨y, List.mem_append_left _ hy, hxy⟩

theorem Conserved.of_withdrawn {σ τ : System ω} (hσ : σ.Conserved) (hfresh : σ.FreshRequests)
    {id : RequestId} {own : Bool} (hregistry : τ.registry = (σ.registry.withdraw id).2)
    (hhistory : τ.history = σ.history ++ [.withdrawal id own (σ.registry.withdraw id).1]) :
    τ.Conserved where
  balance := fun other => by
    have hold := hσ.balance other
    have hfound := withdraw_found σ.registry id
    -- at most one entry is withdrawn, since the request was admitted at most once
    have honce : σ.admitted.count other ≤ 1 := List.nodup_iff_count_le_one.1 hfresh other
    rw [length_fates] at hold ⊢
    have hadmitted : τ.admitted = σ.admitted := (admitted_append hhistory).trans (List.append_nil _)
    rw [hregistry, queuedIn_withdraw, hhistory, List.filterMap_append, List.length_append,
      hadmitted]
    by_cases hid : other = id
    · subst hid
      cases hw : (σ.registry.withdraw other).1 with
      | true =>
        have hqueued := hfound.1 hw
        simp only [List.filterMap_cons, List.filterMap_nil, Event.fate?, true_and, if_true,
          List.length_singleton]
        omega
      | false =>
        have hnone : queuedIn σ.registry.pending other = 0 := by
          rw [hw] at hfound
          simpa using hfound
        simp only [List.filterMap_cons, List.filterMap_nil, Event.fate?, true_and, if_true,
          Bool.false_eq_true, if_false, List.length_nil]
        omega
    · have hother : [Event.withdrawal id own (σ.registry.withdraw id).1].filterMap
          (Event.fate? (ω := ω) other) = [] := by
        simp [Event.fate?, Ne.symm hid]
      rw [if_neg hid, hother, List.length_nil]
      omega
  origin := fun x hx => by
    rw [hregistry] at hx
    rw [created_append hhistory]
    obtain ⟨y, hy, hxy⟩ := hσ.origin x hx
    exact ⟨y, List.mem_append_left _ hy, hxy⟩

theorem Conserved.of_moved {σ τ : System ω} (h : Moved s σ τ) (hσ : σ.Conserved)
    (hfresh : σ.FreshRequests) : τ.Conserved := by
  cases h with
  | still hregistry hcalls hhistory =>
    exact hσ.congr [] (by rw [hhistory, List.append_nil]) (fun _ => rfl) rfl
      (fun id => by rw [hregistry]) fun x hx => ⟨x, hregistry ▸ hx, rfl, rfl⟩
  | refused error hregistry hcalls hhistory =>
    exact hσ.congr _ hhistory (fun _ => rfl) rfl (fun id => by rw [hregistry])
      fun x hx => ⟨x, hregistry ▸ hx, rfl, rfl⟩
  | admitted requested hrunning hregistry hcalls hhistory =>
    exact hσ.of_admitted hregistry hhistory
  | withdrawn id own hregistry hcalls hhistory => exact hσ.of_withdrawn hfresh hregistry hhistory
  | activated key externalKey hregistry hcalls hhistory =>
    have hhistory : τ.history = σ.history ++ [] := by rw [hhistory, List.append_nil]
    rcases activate_cases σ.registry key externalKey with h | ⟨x, hx, h⟩ <;> rw [h] at hregistry
    · exact hσ.congr [] hhistory (fun _ => rfl) rfl (fun id => by rw [hregistry])
        fun x hx => ⟨x, hregistry ▸ hx, rfl, rfl⟩
    · obtain ⟨hmem, rfl⟩ := session?_eq_some hx
      refine hσ.congr [] hhistory (fun _ => rfl) rfl (fun id => by rw [hregistry])
        fun y hy => ?_
      rw [hregistry] at hy
      obtain ⟨z, hz, rfl⟩ := List.mem_map.1 hy
      split
      · exact ⟨x, hmem, rfl, rfl⟩
      · exact ⟨z, hz, rfl, rfl⟩
  | unprovisioned id hregistry hcalls hhistory =>
    refine hσ.congr [] (by rw [hhistory, List.append_nil]) (fun _ => rfl) rfl (fun other => ?_)
      fun x hx => ⟨x, by rw [hregistry] at hx; exact hx, rfl, rfl⟩
    rw [hregistry, provisioningFailed]
    refine queuedIn_map (fun p => ?_) σ.registry.pending other
    split <;> rfl
  | begun ticket op callers turn hturn hregistry hcalls hhistory =>
    subst hturn
    exact hσ.of_section (start_section ..) hregistry hhistory
  | resumed c hc prepared turn hturn hregistry hcalls hhistory =>
    subst hturn
    exact hσ.of_section (resume_section s everybody ..) hregistry hhistory
  | abandoned c hc hregistry hcalls hhistory =>
    exact hσ.congr _ hhistory (fun _ => rfl) rfl (fun id => by rw [hregistry])
      fun x hx => ⟨x, hregistry ▸ hx, rfl, rfl⟩

theorem conserved_run {σ : System ω} (hσ : σ.Conserved) (actions : List (Action ω))
    (hfresh : (σ.run s actions).FreshRequests) : (σ.run s actions).Conserved := by
  induction actions generalizing σ with
  | nil => exact hσ
  | cons a actions ih =>
    have hrest : ((step s σ a).run s actions).FreshRequests := hfresh
    obtain ⟨events, hhistory⟩ := (step_moved (s := s) σ a).exists_history
    exact ih (hσ.of_moved (step_moved σ a) (hrest.of_run.of_history hhistory)) hrest

/-! ### The fate of a request -/

theorem Conserved.exists_fate {σ : System ω} (hσ : σ.Conserved) (hfresh : σ.FreshRequests)
    {id : RequestId} (hid : id ∈ σ.admitted) : ∃ f, σ.fates id = [f] := by
  rw [← List.length_eq_one_iff, hσ.balance id, List.count_eq_one_of_mem hfresh hid]

/-- A request that has left the queue has its fate from the history. -/
theorem history_of_fates {σ : System ω} {id : RequestId} {f : Fate} (h : σ.fates id = [f])
    (hf : f ≠ .queued) : σ.history.filterMap (Event.fate? id) = [f] := by
  rw [fates] at h
  cases hqueue : σ.registry.pending.filter (·.request.id = id) with
  | nil => rwa [hqueue, List.map_nil, List.nil_append] at h
  | cons p rest =>
    rw [hqueue, List.map_cons, List.cons_append] at h
    exact absurd (List.cons.inj h).1.symm hf

/-- A fate outside the queue is final. -/
theorem Conserved.fates_final {σ τ : System ω} (hσ : σ.Conserved) (hτ : τ.Conserved)
    (hfresh : τ.FreshRequests) {events : List (Event ω)}
    (hhistory : τ.history = σ.history ++ events) {id : RequestId} {f : Fate}
    (h : σ.fates id = [f]) (hf : f ≠ .queued) : τ.fates id = [f] := by
  have hadmitted : id ∈ σ.admitted := by
    refine List.count_pos_iff.1 ?_
    rw [← hσ.balance id, h]
    exact Nat.one_pos
  obtain ⟨g, hg⟩ := hτ.exists_fate hfresh
    (by rw [admitted_append hhistory]; exact List.mem_append_left _ hadmitted)
  -- the event that decided the fate stays in the history, and there is room for one fate only
  have hmem : f ∈ τ.fates id := by
    rw [fates, hhistory, List.filterMap_append, history_of_fates h hf]
    simp
  rw [hg] at hmem ⊢
  rw [List.mem_singleton.1 hmem]

end System

/-- The session that a fate speaks of. -/
def Fate.session? : Fate → Option Session
  | .bound session => some session
  | _ => none

namespace System

theorem filterMap_session?_fate? (events : List (Event ω)) (id : RequestId) :
    (events.filterMap (Event.fate? id)).filterMap Fate.session? =
      (events.filterMap Event.bound?).filter (·.requestId = id) := by
  rw [List.filterMap_filterMap, List.filter_filterMap]
  refine List.filterMap_congr fun e _ => ?_
  cases e with
  | reported ticket op n =>
    cases n with
    | bound x =>
      by_cases hx : x.requestId = id <;> simp [Event.fate?, News.fate?, Event.bound?,
        News.bound?, Fate.session?, Option.filter, hx]
    | dropped other why =>
      by_cases hother : other = id <;> simp [Event.fate?, News.fate?, Event.bound?,
        News.bound?, Fate.session?, hother]
    | changed | delivered | ended => rfl
  | withdrawal other own found =>
    by_cases hother : other = id ∧ found = true <;>
      simp [Event.fate?, Event.bound?, Fate.session?, hother]
  | submitted | paused | answered | abandoned => rfl

/-- The sessions that were created for a request are those that its fates speak of. -/
theorem filter_created (σ : System ω) (id : RequestId) :
    σ.created.filter (·.requestId = id) = (σ.fates id).filterMap Fate.session? := by
  have hqueue : ((σ.registry.pending.filter (·.request.id = id)).map
      fun _ => Fate.queued).filterMap Fate.session? = [] := by
    rw [List.filterMap_map]
    exact List.filterMap_eq_nil_iff.2 fun _ _ => rfl
  rw [fates, List.filterMap_append, hqueue, List.nil_append, filterMap_session?_fate?, created]

end System

end BrowserGrid.Registry
