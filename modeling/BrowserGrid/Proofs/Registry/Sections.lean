import BrowserGrid.Registry.Call
import Mathlib.Data.List.Basic

/-!
# What the sections of the operations do

Everything that a section can do is said once, here; invariants are proved by cases on it.

* `Visited` lists what the visit of one request does to a sweep under way, `Visits` is the visit of
  one request after the other, and `Passed` is a whole pass over the queue: the part of the queue
  that was seen, the rest, which is empty unless a matcher broke, and what the pass comes to
  (`sweep_passed`).
* `Begins` lists what the first section of each operation comes to (`start_begins`).
* `Section` lists what a section of an operation does to the registry, together with what it
  reports (`start_section`, `resume_section`).
-/

namespace BrowserGrid.Registry

variable {ω : Type} {s : Setting ω} {callers : Callers}

/-! ### The visit of one request -/

namespace Sweep

/-- The session that a request is bound to next. -/
def nextSession (s : Setting ω) (w : Sweep ω) (p : PendingRequest) (slot : SlotId)
    (offered : Capabilities) : Session :=
  Session.bind ⟨s.identifiers w.drawn⟩ p.request slot offered

/-- The sweep after a request was bound, before its session is handed over. -/
def withSession (w : Sweep ω) (memory : ω) (live : LiveProxies ω) (session : Session) : Sweep ω :=
  { w with
    memory, live
    drawn := w.drawn + 1
    active := w.active ++ [session]
    bound := w.bound ++ [session] }

/-- The sweep after the visit of `p`, one constructor for each way in which `w` is changed. -/
inductive Visited (s : Setting ω) (callers : Callers) (w : Sweep ω) (p : PendingRequest) :
    Sweep ω → Prop where
  /-- The caller is gone. -/
  | discarded (habsent : callers.present p.request.id = false) :
    Visited s callers w p { w with discarded := w.discarded ++ [p.request.id] }
  /-- No slot takes the request, and it stays. -/
  | kept (hpresent : callers.present p.request.id = true) (memory : ω) (q : PendingRequest)
    (toProvision : List Request) (hq : q.request = p.request) :
    Visited s callers w p { w with memory, remaining := w.remaining ++ [q], toProvision }
  /-- The slot that was found cannot be taken. -/
  | refused (hpresent : callers.present p.request.id = true) (memory : ω) :
    Visited s callers w p
      { w with memory, drawn := w.drawn + 1, remaining := w.remaining ++ [p] }
  /-- The request is bound to a slot. -/
  | bound (hpresent : callers.present p.request.id = true) (memory : ω) (slot : SlotId)
    (offered : Capabilities) (live : LiveProxies ω)
    (hlive : LiveProxies.occupy? w.live slot (nextSession s w p slot offered).key = some live) :
    Visited s callers w p
      (deliver callers (w.withSession memory live (nextSession s w p slot offered))
        (nextSession s w p slot offered))

theorem visited_keep {w : Sweep ω} {p : PendingRequest}
    (hpresent : callers.present p.request.id = true) (memory : ω) :
    Visited s callers w p (keep s { w with memory } p) := by
  unfold keep
  split
  · exact .kept hpresent memory { p with provisioning := true } _ rfl
  · exact .kept hpresent memory p w.toProvision rfl

theorem visited_of_visit {w w' : Sweep ω} {p : PendingRequest}
    (h : visit s callers w p = .ok w') : Visited s callers w p w' := by
  unfold visit at h
  split at h
  · rename_i habsent
    cases h
    exact .discarded (by simpa using habsent)
  · rename_i hpresent
    replace hpresent : callers.present p.request.id = true := by simpa using hpresent
    split at h
    · rename_i slot offered memory _
      cases h
      unfold bind
      dsimp only
      split
      · rename_i live hlive
        exact .bound hpresent memory slot offered live hlive
      · exact .refused hpresent memory
    · rename_i memory _
      cases h
      exact visited_keep hpresent memory
    · cases h

theorem of_visit_error {w w' : Sweep ω} {p : PendingRequest}
    (h : visit s callers w p = .error w') : ∃ memory, w' = { w with memory } := by
  unfold visit at h
  split at h
  · cases h
  · split at h
    · cases h
    · cases h
    · cases h
      exact ⟨_, rfl⟩

/-! ### What a visit leaves alone -/

section deliver

variable (w : Sweep ω) (x : Session)

@[simp] theorem deliver_live : (deliver callers w x).live = w.live := by
  unfold deliver; split <;> rfl

@[simp] theorem deliver_active : (deliver callers w x).active = w.active := by
  unfold deliver; split <;> rfl

@[simp] theorem deliver_memory : (deliver callers w x).memory = w.memory := by
  unfold deliver; split <;> rfl

@[simp] theorem deliver_bound : (deliver callers w x).bound = w.bound := by
  unfold deliver; split <;> rfl

@[simp] theorem deliver_remaining : (deliver callers w x).remaining = w.remaining := by
  unfold deliver; split <;> rfl

@[simp] theorem deliver_discarded : (deliver callers w x).discarded = w.discarded := by
  unfold deliver; split <;> rfl

theorem deliver_delivered : (deliver callers w x).delivered =
    if callers.receives x.requestId then w.delivered ++ [x] else w.delivered := by
  unfold deliver; split <;> rfl

theorem deliver_undelivered : (deliver callers w x).undelivered =
    if callers.receives x.requestId then w.undelivered else w.undelivered ++ [x.key] := by
  unfold deliver; split <;> rfl

end deliver

/-! ### One request after the other -/

/-- The visit of one request after the other. -/
inductive Visits (s : Setting ω) (callers : Callers) (w : Sweep ω) :
    List PendingRequest → Sweep ω → Prop where
  | nil : Visits s callers w [] w
  | snoc {w' w'' : Sweep ω} {seen : List PendingRequest} {p : PendingRequest}
    (hseen : Visits s callers w seen w') (hp : Visited s callers w' p w'') :
    Visits s callers w (seen ++ [p]) w''

theorem Visits.cons {w w' w'' : Sweep ω} {p : PendingRequest} {rest : List PendingRequest}
    (hp : Visited s callers w p w') (hrest : Visits s callers w' rest w'') :
    Visits s callers w (p :: rest) w'' := by
  -- the first visit comes before all those that `hrest` was built up from
  induction hrest with
  | nil => exact .snoc .nil hp
  | snoc _ hlast ih => exact .snoc ih hlast

/-- What each visit preserves holds after all of them. -/
theorem Visits.preserves {P : Sweep ω → Prop} {w w' : Sweep ω} {seen : List PendingRequest}
    (h : Visits s callers w seen w')
    (hvisit : ∀ {v v' : Sweep ω} {p : PendingRequest}, Visited s callers v p v' → P v → P v')
    (hw : P w) : P w' := by
  induction h with
  | nil => exact hw
  | snoc _ hp ih => exact hvisit hp ih

theorem visits_of_visitAll {w w' : Sweep ω} {queue : List PendingRequest}
    (h : visitAll s callers w queue = .ok w') : Visits s callers w queue w' := by
  induction queue generalizing w with
  | nil =>
    cases h
    exact .nil
  | cons p rest ih =>
    unfold visitAll at h
    split at h
    · rename_i hp
      exact .cons (visited_of_visit hp) (ih h)
    · cases h

/-- A broken pass has visited the requests before the one at which the matcher broke. -/
theorem visitAll_eq_error {w w' : Sweep ω} {queue lost : List PendingRequest}
    (h : visitAll s callers w queue = .error (w', lost)) :
    ∃ seen unseen w'' memory, queue = seen ++ unseen ∧ visitAll s callers w seen = .ok w'' ∧
      w' = { w'' with memory } ∧ lost = w''.remaining ++ unseen := by
  induction queue generalizing w with
  | nil => cases h
  | cons p rest ih =>
    unfold visitAll at h
    split at h
    · rename_i hp
      obtain ⟨seen, unseen, w'', memory, rfl, hseen, hw', hlost⟩ := ih h
      exact ⟨p :: seen, unseen, w'', memory, rfl, by rw [visitAll, hp]; exact hseen, hw', hlost⟩
    · rename_i hp
      cases h
      obtain ⟨memory, rfl⟩ := of_visit_error hp
      exact ⟨[], p :: rest, w, memory, rfl, rfl, rfl, rfl⟩

theorem visits_of_visitAll_error {w w' : Sweep ω} {queue lost : List PendingRequest}
    (h : visitAll s callers w queue = .error (w', lost)) :
    ∃ seen unseen w'' memory, queue = seen ++ unseen ∧ Visits s callers w seen w'' ∧
      w' = { w'' with memory } ∧ lost = w''.remaining ++ unseen := by
  obtain ⟨seen, unseen, w'', memory, hqueue, hseen, hrest⟩ := visitAll_eq_error h
  exact ⟨seen, unseen, w'', memory, hqueue, visits_of_visitAll hseen, hrest⟩

/-- The sessions that a sweep adds are those that it binds. -/
theorem Visited.active_eq {w w' : Sweep ω} {p : PendingRequest}
    (h : Visited s callers w p w') :
    ∃ xs, w'.active = w.active ++ xs ∧ w'.bound = w.bound ++ xs := by
  cases h with
  | discarded => exact ⟨[], by simp⟩
  | kept => exact ⟨[], by simp⟩
  | refused => exact ⟨[], by simp⟩
  | bound => exact ⟨_, by rw [deliver_active]; rfl, by rw [deliver_bound]; rfl⟩

theorem Visits.active_eq {w w' : Sweep ω} {seen : List PendingRequest}
    (h : Visits s callers w seen w') :
    ∃ xs, w'.active = w.active ++ xs ∧ w'.bound = w.bound ++ xs := by
  induction h with
  | nil => exact ⟨[], by simp⟩
  | snoc _ hp ih =>
    obtain ⟨xs, hactive, hbound⟩ := ih
    obtain ⟨ys, hactive', hbound'⟩ := hp.active_eq
    exact ⟨xs ++ ys, by rw [hactive', hactive, List.append_assoc],
      by rw [hbound', hbound, List.append_assoc]⟩

end Sweep

/-! ### A whole pass -/

/-- A sweep that has not visited anything. -/
def sweepStart (r : Registry ω) (memory : ω) : Sweep ω :=
  { live := r.live, active := r.active, drawn := r.drawn, memory }

/-- What a pass over the queue comes to when no matcher breaks. -/
theorem sweep_of_visitAll {r : Registry ω} (hrunning : r.stopped = false) {memory : ω}
    {w : Sweep ω}
    (hw : (sweepStart r memory).visitAll s callers (r.pending.mergeSort before) = .ok w) :
    r.sweep s callers memory =
      { registry := { r with
          pending := w.remaining, live := w.live, active := w.active, drawn := w.drawn }
        memory := w.memory
        bound := w.bound
        delivered := w.delivered
        discarded := w.discarded
        undelivered := w.undelivered
        toProvision := w.toProvision } := by
  unfold sweepStart at hw
  rw [sweep, if_neg (by simp [hrunning])]
  dsimp only
  rw [hw]

/-- A pass over the queue that has seen one part of it and not the rest. -/
structure Passed (s : Setting ω) (callers : Callers) (r : Registry ω) (memory : ω)
    (seen unseen : List PendingRequest) (w : Sweep ω) (result : SweepResult ω) : Prop where
  /-- The parts make up the queue. -/
  queue : (seen ++ unseen).Perm r.pending
  /-- The first part was visited. -/
  visits : Sweep.Visits s callers (sweepStart r memory) seen w
  /-- The second part is empty unless a matcher broke. -/
  unseen_eq : result.broken = false → unseen = []
  /-- The registry afterwards. -/
  registry_eq : result.registry = { r with
    pending := if result.broken then [] else w.remaining
    live := w.live, active := w.active, drawn := w.drawn }
  /-- The sessions that requests were bound to. -/
  bound_eq : result.bound = w.bound
  /-- Those that their callers took. -/
  delivered_eq : result.delivered = w.delivered
  /-- The requests whose callers were gone. -/
  discarded_eq : result.discarded = w.discarded
  /-- The requests that a broken pass loses. -/
  lost_eq : result.lost =
    if result.broken then (w.remaining ++ unseen).map (·.request.id) else []
  /-- The sessions whose callers were gone; a broken pass forgets them. -/
  undelivered_eq : result.undelivered = if result.broken then [] else w.undelivered

theorem sweep_of_stopped {r : Registry ω} (h : r.stopped = true) (memory : ω) :
    r.sweep s callers memory = { registry := r, memory } := by
  rw [sweep, if_pos h]

theorem sweep_passed (s : Setting ω) (callers : Callers) {r : Registry ω}
    (h : r.stopped = false) (memory : ω) :
    ∃ seen unseen w, Passed s callers r memory seen unseen w (r.sweep s callers memory) := by
  -- the pass goes through the queue in the order of priority, not in the order of arrival
  have hsorted : (r.pending.mergeSort before).Perm r.pending := List.mergeSort_perm ..
  rw [sweep, if_neg (by simp [h])]
  dsimp only
  split
  · rename_i w hw
    refine ⟨r.pending.mergeSort before, [], w, ?_⟩
    exact {
      queue := by rw [List.append_nil]; exact hsorted
      visits := Sweep.visits_of_visitAll hw
      unseen_eq := fun _ => rfl
      registry_eq := rfl
      bound_eq := rfl
      delivered_eq := rfl
      discarded_eq := rfl
      lost_eq := rfl
      undelivered_eq := rfl }
  · rename_i w lost hw
    -- the request at which the matcher broke is the first of the unseen ones
    obtain ⟨seen, unseen, w', memory', hqueue, hseen, rfl, rfl⟩ :=
      Sweep.visits_of_visitAll_error hw
    refine ⟨seen, unseen, w', ?_⟩
    exact {
      queue := by rw [← hqueue]; exact hsorted
      visits := hseen
      unseen_eq := fun h => absurd h (by simp)
      registry_eq := rfl
      bound_eq := rfl
      delivered_eq := rfl
      discarded_eq := rfl
      lost_eq := rfl
      undelivered_eq := rfl }

/-! ### Taking sessions away -/

theorem mem_forget {active : List Session} {key : SessionKey} {x : Session} :
    x ∈ forget active key ↔ x ∈ active ∧ x.key ≠ key := by
  rw [forget, List.mem_filter, decide_eq_true_iff]

theorem mem_foldl_forget {keys : List SessionKey} {active : List Session} {x : Session} :
    x ∈ keys.foldl forget active ↔ x ∈ active ∧ x.key ∉ keys := by
  induction keys generalizing active with
  | nil => simp
  | cons key keys ih =>
    rw [List.foldl_cons, ih, mem_forget, List.mem_cons, not_or, and_assoc]

theorem foldl_forget_sublist (keys : List SessionKey) (active : List Session) :
    (keys.foldl forget active).Sublist active := by
  induction keys generalizing active with
  | nil => exact .refl _
  | cons key keys ih => exact (ih _).trans List.filter_sublist

theorem session?_eq_some {r : Registry ω} {key : SessionKey} {x : Session}
    (h : r.session? key = some x) : x ∈ r.active ∧ x.key = key :=
  ⟨List.mem_of_find?_eq_some h, by simpa using List.find?_some h⟩

/-! ### What the changes of the registry do -/

/-- What asking for a session does: it is refused, or the next request is queued. -/
theorem submit_cases (s : Setting ω) (r : Registry ω) (requested : Capabilities) (memory : ω) :
    (∃ error memory', r.submit s requested memory = (.error error, r, memory')) ∨
      ∃ memory', r.stopped = false ∧ r.submit s requested memory =
        (.ok (nextRequest s r requested).id, r.enqueue (nextRequest s r requested), memory') := by
  unfold submit
  split
  · exact .inl ⟨_, _, rfl⟩
  · rename_i hstopped
    dsimp only
    split
    · exact .inr ⟨_, by simpa using hstopped, rfl⟩
    · exact .inl ⟨_, _, rfl⟩

theorem activate_cases (r : Registry ω) (key : SessionKey) (externalKey : String) :
    (r.activate key externalKey).2 = r ∨
      ∃ x, r.session? key = some x ∧ (r.activate key externalKey).2 = { r with
        active := r.active.map fun y => if y.key = key then x.activate externalKey else y } := by
  unfold activate
  split
  · exact .inl rfl
  · rename_i x hx
    exact .inr ⟨x, hx, rfl⟩

theorem release_eq {r r' : Registry ω} {key : SessionKey} {reason : Termination}
    {out : Released ω} (h : r.release key reason = (some out, r')) :
    ∃ x, r.session? key = some x ∧ out.session = x.finish reason ∧
      r' = { r with
        live := (LiveProxies.retire (LiveProxies.vacate r.live x.slot key) x.slot.proxy).2
        active := forget r.active key } := by
  unfold release at h
  split at h
  · cases h
  · rename_i x hx
    cases h
    exact ⟨x, hx, rfl, rfl⟩

theorem eq_of_release_none {r r' : Registry ω} {key : SessionKey} {reason : Termination}
    (h : r.release key reason = (none, r')) : r.session? key = none ∧ r' = r := by
  unfold release at h
  split at h
  · rename_i hx
    cases h
    exact ⟨hx, rfl⟩
  · cases h

theorem removeProxy_eq {r r' : Registry ω} {id : ProxyId} {reason : Termination}
    {out : Removed ω} (h : r.removeProxy id reason = (some out, r')) :
    ∃ e, r.live.get? id = some e ∧
      out.ended = e.sessions.filterMap (fun key => (r.session? key).map (·.finish reason)) ∧
      r' = { r with live := r.live.erase id, active := e.sessions.foldl forget r.active } := by
  unfold removeProxy at h
  split at h
  · cases h
  · rename_i e he
    cases h
    exact ⟨e, he, rfl, rfl⟩

theorem eq_of_removeProxy_none {r r' : Registry ω} {id : ProxyId} {reason : Termination}
    (h : r.removeProxy id reason = (none, r')) : r.live.get? id = none ∧ r' = r := by
  unfold removeProxy at h
  split at h
  · rename_i he
    cases h
    exact ⟨he, rfl⟩
  · cases h

/-- The registry that has an identity taken for a new proxy. -/
def withIdentity (r : Registry ω) (id : ProxyId) : Registry ω :=
  { r with registering := id :: r.registering }

theorem stage_eq {r r' : Registry ω} {id : ProxyId} {stale : Option (Removed ω)}
    (h : r.stage id = (.staged stale, r')) :
    r.stopped = false ∧ id ∉ r.registering ∧
      (r.withIdentity id).removeProxy id .reregistration = (stale, r') := by
  unfold stage at h
  split at h
  · cases h
  · rename_i hstopped
    split at h
    · cases h
    · rename_i hid
      cases h
      exact ⟨by simpa using hstopped, hid, rfl⟩

theorem eq_of_stage_refused {r r' : Registry ω} {id : ProxyId} {error : RegistryError}
    (h : r.stage id = (.refused error, r')) : r' = r := by
  unfold stage at h
  split at h
  · cases h; rfl
  · split at h
    · cases h; rfl
    · cases h

theorem promote_eq {r r' : Registry ω} {p : Proxy ω} {prepared : Bool} {outcome : Promotion}
    (h : r.promote p prepared = (outcome, r')) :
    (outcome = .live → r.stopped = false) ∧
      r' = { r with
        registering := r.registering.filter (· ≠ p.id)
        live := if outcome = .live then r.live.insert p.id (.fresh p) else r.live } := by
  unfold promote at h
  dsimp only at h
  split at h
  · cases h
    exact ⟨by simp, rfl⟩
  · split at h
    · cases h
      exact ⟨by simp, rfl⟩
    · rename_i hstopped
      cases h
      exact ⟨fun _ => by simpa using hstopped, rfl⟩

theorem stop_eq {r r' : Registry ω} {out : Stopped ω} (h : r.stop = (some out, r')) :
    r.stopped = false ∧ out.cancelled = r.pending.map (·.request.id) ∧
      out.ended = r.active.map (·.finish .registryStopped) ∧
      r' = { r with stopped := true, pending := [], active := [], registering := [],
                    live := KeyMap.empty } := by
  unfold stop at h
  split at h
  · cases h
  · rename_i hstopped
    cases h
    exact ⟨by simpa using hstopped, rfl, rfl, rfl⟩

theorem eq_of_stop_none {r r' : Registry ω} (h : r.stop = (none, r')) :
    r.stopped = true ∧ r' = r := by
  unfold stop at h
  split at h
  · rename_i hstopped
    cases h
    exact ⟨hstopped, rfl⟩
  · cases h

/-! ### The sections of the operations -/

/-- What a pass over the queue reports. -/
def SweepResult.news (result : SweepResult ω) : List News :=
  result.bound.map .bound ++ result.delivered.map .delivered ++
    result.discarded.map (.dropped · .callerGone) ++ result.lost.map (.dropped · .sweepBroken)

/-- The turn with which an operation starts, one constructor for each case of `Operation.start`,
with the call of the registry that decides the case. -/
inductive Begins (s : Setting ω) (callers : Callers) (r : Registry ω) (memory : ω) :
    Operation ω → Turn ω → Prop where
  /-- A proxy is refused. -/
  | refused (p : Proxy ω) {error : RegistryError} (h : r.stage p.id = (.refused error, r)) :
    Begins s callers r memory (.add p) ⟨r, memory, [], .answers (.added false)⟩
  /-- An identity is taken for a new proxy. -/
  | staged (p : Proxy ω) {r' : Registry ω} (h : r.stage p.id = (.staged none, r')) :
    Begins s callers r memory (.add p) ⟨r', memory, [], .waits (.preparing p)⟩
  /-- An identity is taken for a new proxy, and the proxy that had it is removed. -/
  | replaced (p : Proxy ω) {stale : Removed ω} {r' : Registry ω}
    (h : r.stage p.id = (.staged (some stale), r')) :
    Begins s callers r memory (.add p) ⟨r', memory, stale.ended.map .ended ++ [.changed],
      .waits (if keepsBacking stale.proxy p then .preparing p else .clearing stale.proxy p)⟩
  /-- There is no proxy to remove. -/
  | missing (id : ProxyId) (h : r.removeProxy id .proxyRemoved = (none, r)) :
    Begins s callers r memory (.remove id) ⟨r, memory, [], .answers (.removed false)⟩
  /-- A proxy is removed. -/
  | removed (id : ProxyId) {old : Removed ω} {r' : Registry ω}
    (h : r.removeProxy id .proxyRemoved = (some old, r')) :
    Begins s callers r memory (.remove id) ⟨r', memory, old.ended.map .ended ++ [.changed],
      .waits (.removing old.proxy)⟩
  /-- A session is released. -/
  | released (key : SessionKey) (reason : Termination) :
    Begins s callers r memory (.release key reason)
      (releaseTurn r memory key reason .releasing fun session => .answers (.released session))
  /-- There is no session on the slot. -/
  | vacant (slot : SlotId) (reason : Termination) (h : r.sessionIn? slot = none) :
    Begins s callers r memory (.forceRelease slot reason) ⟨r, memory, [], .answers (.released none)⟩
  /-- There is a session on the slot. -/
  | occupied (slot : SlotId) (reason : Termination) {key : SessionKey}
    (h : r.sessionIn? slot = some key) :
    Begins s callers r memory (.forceRelease slot reason)
      ⟨r, memory, [], .waits (.forcing key reason)⟩
  /-- A pass over the queue is broken off. -/
  | broken (h : (r.sweep s callers memory).broken = true) :
    Begins s callers r memory .sweep ⟨(r.sweep s callers memory).registry,
      (r.sweep s callers memory).memory, (r.sweep s callers memory).news, .answers .broken⟩
  /-- A pass over the queue is made. -/
  | swept (h : (r.sweep s callers memory).broken = false)
    (hkeys : (r.sweep s callers memory).undelivered = []) :
    Begins s callers r memory .sweep ⟨(r.sweep s callers memory).registry,
      (r.sweep s callers memory).memory, (r.sweep s callers memory).news,
      .answers (.swept (r.sweep s callers memory).toProvision)⟩
  /-- A pass over the queue is made, and sessions are to be released that it could not hand over. -/
  | returning (h : (r.sweep s callers memory).broken = false)
    (hkeys : (r.sweep s callers memory).undelivered ≠ []) :
    Begins s callers r memory .sweep ⟨(r.sweep s callers memory).registry,
      (r.sweep s callers memory).memory, (r.sweep s callers memory).news,
      .waits (.returning (r.sweep s callers memory).undelivered
        (r.sweep s callers memory).toProvision)⟩
  /-- The registry has been stopped before. -/
  | halted (h : r.stop = (none, r)) :
    Begins s callers r memory .stop ⟨r, memory, [], .answers .stopped⟩
  /-- The registry is stopped. -/
  | stopped {out : Stopped ω} {r' : Registry ω} (h : r.stop = (some out, r')) :
    Begins s callers r memory .stop ⟨r', memory,
      out.cancelled.map (.dropped · .registryStopped) ++ out.ended.map .ended,
      .waits (.stopping out.proxies)⟩

theorem start_begins (s : Setting ω) (callers : Callers) (r : Registry ω) (memory : ω)
    (op : Operation ω) : Begins s callers r memory op (op.start s callers r memory) := by
  cases op with
  | add p =>
    unfold Operation.start
    dsimp only
    split
    · rename_i h
      obtain rfl := eq_of_stage_refused h
      exact .refused p h
    · rename_i h
      exact .staged p h
    · rename_i h
      exact .replaced p h
  | remove id =>
    unfold Operation.start
    dsimp only
    split
    · rename_i h
      obtain ⟨-, rfl⟩ := eq_of_removeProxy_none h
      exact .missing id h
    · rename_i h
      exact .removed id h
  | release key reason => exact .released key reason
  | forceRelease slot reason =>
    unfold Operation.start
    dsimp only
    split
    · rename_i h
      exact .vacant slot reason h
    · rename_i h
      exact .occupied slot reason h
  | sweep =>
    unfold Operation.start afterReturn
    dsimp only
    split
    · rename_i h
      exact .broken h
    · rename_i h
      split
      · rename_i hkeys
        exact .swept (by simpa using h) (List.isEmpty_iff.1 hkeys)
      · rename_i hkeys
        exact .returning (by simpa using h) fun hnil => hkeys (List.isEmpty_iff.2 hnil)
  | stop =>
    unfold Operation.start
    dsimp only
    split
    · rename_i h
      obtain ⟨-, rfl⟩ := eq_of_stop_none h
      exact .halted h
    · rename_i h
      exact .stopped h

/-- What a section of an operation does to the registry, and what it reports.  The callers matter to
a pass over the queue only; the identity is that of the proxy whose registration ends. -/
inductive Section (s : Setting ω) (callers : Callers) (r : Registry ω) :
    Option ProxyId → Registry ω → List News → Prop where
  /-- Nothing is changed. -/
  | idle : Section s callers r none r []
  /-- A session ends. -/
  | released {key : SessionKey} {reason : Termination} {out : Released ω} {r' : Registry ω}
    (h : r.release key reason = (some out, r')) :
    Section s callers r none r' [.ended out.session, .changed]
  /-- A proxy is removed. -/
  | removed {id : ProxyId} {reason : Termination} {out : Removed ω} {r' : Registry ω}
    (h : r.removeProxy id reason = (some out, r')) :
    Section s callers r none r' (out.ended.map .ended ++ [.changed])
  /-- An identity is taken for a new proxy. -/
  | staged {id : ProxyId} {r' : Registry ω} (h : r.stage id = (.staged none, r')) :
    Section s callers r none r' []
  /-- An identity is taken for a new proxy, and the proxy that had it is removed. -/
  | replaced {id : ProxyId} {out : Removed ω} {r' : Registry ω}
    (h : r.stage id = (.staged (some out), r')) :
    Section s callers r none r' (out.ended.map .ended ++ [.changed])
  /-- A registration ends. -/
  | promoted {p : Proxy ω} {prepared : Bool} {outcome : Promotion} {r' : Registry ω}
    (h : r.promote p prepared = (outcome, r')) :
    Section s callers r (some p.id) r' (if outcome = .live then [.changed] else [])
  /-- A pass over the queue is made. -/
  | swept (memory : ω) :
    Section s callers r none (r.sweep s callers memory).registry (r.sweep s callers memory).news
  /-- The registry is stopped. -/
  | stopped {out : Stopped ω} {r' : Registry ω} (h : r.stop = (some out, r')) :
    Section s callers r none r'
      (out.cancelled.map (.dropped · .registryStopped) ++ out.ended.map .ended)

/-- Callers of whom none goes away. -/
def everybody : Callers := ⟨fun _ => true, fun _ => true⟩

theorem releaseTurn_section (r : Registry ω) (memory : ω) (key : SessionKey)
    (reason : Termination) (spent : Session → Proxy ω → Call ω)
    (after : Option Session → Next ω) :
    Section s callers r none (releaseTurn r memory key reason spent after).registry
      (releaseTurn r memory key reason spent after).news := by
  unfold releaseTurn
  split
  · rename_i h
    rw [(eq_of_release_none h).2]
    exact .idle
  · rename_i h
    exact .released h
  · rename_i h
    exact .released h

/-- The first section of an operation. -/
theorem start_section (callers : Callers) (r : Registry ω) (memory : ω) (op : Operation ω) :
    Section s callers r none (op.start s callers r memory).registry
      (op.start s callers r memory).news := by
  have hbegins := start_begins s callers r memory op
  generalize op.start s callers r memory = turn at hbegins ⊢
  cases hbegins with
  | refused | missing | vacant | occupied | halted => exact .idle
  | staged p h => exact .staged h
  | replaced p h => exact .replaced h
  | removed id h => exact .removed h
  | released key reason => exact releaseTurn_section ..
  | broken | swept | returning => exact .swept memory
  | stopped h => exact .stopped h

/-- A later section of an operation. -/
theorem resume_section (s : Setting ω) (callers : Callers) (r : Registry ω) (memory : ω)
    (prepared : Bool) (c : Call ω) :
    Section s callers r (c.preparation?.map (·.id)) (c.resume r memory prepared).registry
      (c.resume r memory prepared).news := by
  cases c with
  | preparing new =>
    unfold Call.resume
    dsimp only
    split
    · rename_i h
      exact .promoted h
    · rename_i h
      exact .promoted h
    · rename_i h
      exact .promoted h
  | forcing key reason => exact releaseTurn_section ..
  | returning keys toProvision =>
    cases keys with
    | nil => exact .idle
    | cons key keys => exact releaseTurn_section ..
  | clearing | discarding | removing | releasing | retiring | stopping => exact .idle

/-- A registry that has been stopped stays stopped. -/
theorem Section.stopped_mono {r r' : Registry ω} {freed : Option ProxyId} {news : List News}
    (h : Section s callers r freed r' news) (hstopped : r'.stopped = false) :
    r.stopped = false := by
  cases h with
  | idle => exact hstopped
  | released h =>
    obtain ⟨_, _, _, rfl⟩ := release_eq h
    exact hstopped
  | removed h =>
    obtain ⟨_, _, _, rfl⟩ := removeProxy_eq h
    exact hstopped
  | staged h => exact (stage_eq h).1
  | replaced h => exact (stage_eq h).1
  | promoted h =>
    obtain ⟨_, rfl⟩ := promote_eq h
    exact hstopped
  | swept memory =>
    cases hr : r.stopped with
    | false => rfl
    | true =>
      rw [sweep_of_stopped hr] at hstopped
      exact hr.symm.trans hstopped
  | stopped h => exact (stop_eq h).1

/-- Only the end of the registry stops it. -/
theorem Section.stopped_cases {r r' : Registry ω} {freed : Option ProxyId} {news : List News}
    (h : Section s callers r freed r' news) (hstopped : r'.stopped = true) :
    r.stopped = true ∨ ∃ out : Stopped ω, r.stop = (some out, r') := by
  cases h with
  | idle => exact .inl hstopped
  | released h =>
    obtain ⟨_, _, _, rfl⟩ := release_eq h
    exact .inl hstopped
  | removed h =>
    obtain ⟨_, _, _, rfl⟩ := removeProxy_eq h
    exact .inl hstopped
  | staged h =>
    obtain ⟨_, rfl⟩ := eq_of_removeProxy_none (stage_eq h).2.2
    exact .inl hstopped
  | replaced h =>
    obtain ⟨_, _, _, rfl⟩ := removeProxy_eq (stage_eq h).2.2
    exact .inl hstopped
  | promoted h =>
    obtain ⟨_, rfl⟩ := promote_eq h
    exact .inl hstopped
  | swept memory =>
    cases hr : r.stopped with
    | true => exact .inl rfl
    | false =>
      obtain ⟨_, _, w, hpassed⟩ := sweep_passed s callers hr memory
      rw [hpassed.registry_eq] at hstopped
      exact .inl (hr.symm.trans hstopped)
  | stopped h => exact .inr ⟨_, h⟩

/-! ### What a section reports -/

theorem releaseTurn_news {r : Registry ω} {memory : ω} {key : SessionKey} {reason : Termination}
    {spent : Session → Proxy ω → Call ω} {after : Option Session → Next ω} {n : News}
    (h : n ∈ (releaseTurn r memory key reason spent after).news) :
    n = .changed ∨ ∃ y, n = .ended y := by
  unfold releaseTurn at h
  split at h
  · exact absurd h List.not_mem_nil
  all_goals
    rcases List.mem_cons.1 h with rfl | h
    · exact .inr ⟨_, rfl⟩
    · exact .inl (List.mem_singleton.1 h)

theorem removed_news {ended : List Session} {n : News}
    (h : n ∈ ended.map News.ended ++ [.changed]) : n = .changed ∨ ∃ y, n = .ended y := by
  rcases List.mem_append.1 h with h | h
  · obtain ⟨y, _, rfl⟩ := List.mem_map.1 h
    exact .inr ⟨y, rfl⟩
  · exact .inl (List.mem_singleton.1 h)

/-- Only a sweep and the end of the registry report more than sessions that are over. -/
theorem start_news {r : Registry ω} {memory : ω} {op : Operation ω} {n : News}
    (h : n ∈ (op.start s callers r memory).news) :
    op = .sweep ∨ op = .stop ∨ n = .changed ∨ ∃ y, n = .ended y := by
  have hbegins := start_begins s callers r memory op
  generalize op.start s callers r memory = turn at hbegins h
  cases hbegins with
  | broken | swept | returning => exact .inl rfl
  | halted | stopped => exact .inr (.inl rfl)
  | replaced | removed => exact .inr (.inr (removed_news h))
  | released => exact .inr (.inr (releaseTurn_news h))
  | refused | staged | missing | vacant | occupied => exact absurd h List.not_mem_nil

/-- A later section reports nothing but sessions that are over. -/
theorem resume_news {r : Registry ω} {memory : ω} {prepared : Bool} {c : Call ω} {n : News}
    (h : n ∈ (c.resume r memory prepared).news) : n = .changed ∨ ∃ y, n = .ended y := by
  cases c with
  | preparing new =>
    unfold Call.resume at h
    dsimp only at h
    split at h
    · exact absurd h List.not_mem_nil
    · exact absurd h List.not_mem_nil
    · exact .inl (List.mem_singleton.1 h)
  | forcing key reason => exact releaseTurn_news h
  | returning keys toProvision =>
    cases keys with
    | nil => exact absurd h List.not_mem_nil
    | cons key keys => exact releaseTurn_news h
  | clearing | discarding | removing | releasing | retiring | stopping =>
    exact absurd h List.not_mem_nil

/-- A section that reports more than sessions that are over is a pass over the queue or the end of
the registry. -/
theorem Section.news_cases {r r' : Registry ω} {freed : Option ProxyId} {news : List News}
    (h : Section s callers r freed r' news) {n : News} (hn : n ∈ news) :
    n = .changed ∨ (∃ y, n = .ended y) ∨
      (∃ memory, r' = (r.sweep s callers memory).registry ∧
        news = (r.sweep s callers memory).news) ∨
      ∃ out : Stopped ω, r.stop = (some out, r') ∧
        news = out.cancelled.map (.dropped · .registryStopped) ++ out.ended.map .ended := by
  cases h with
  | idle => exact absurd hn List.not_mem_nil
  | released =>
    rcases List.mem_cons.1 hn with rfl | hn
    · exact .inr (.inl ⟨_, rfl⟩)
    · exact .inl (List.mem_singleton.1 hn)
  | removed => exact (removed_news hn).imp_right .inl
  | staged => exact absurd hn List.not_mem_nil
  | replaced => exact (removed_news hn).imp_right .inl
  | promoted =>
    split at hn
    · exact .inl (List.mem_singleton.1 hn)
    · exact absurd hn List.not_mem_nil
  | swept memory => exact .inr (.inr (.inl ⟨memory, rfl, rfl⟩))
  | stopped h => exact .inr (.inr (.inr ⟨_, h, rfl⟩))

end BrowserGrid.Registry
