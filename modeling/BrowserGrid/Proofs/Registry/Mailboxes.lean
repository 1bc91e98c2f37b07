import BrowserGrid.Proofs.Registry.Conservation

/-!
# What the mailboxes say

A mailbox is filled as its request leaves the queue, in the same section, and says what became of
the request, unless its caller is gone (`Mailbox.Agrees`).

* `Section.replies_eq`: a section replies to a request according to the fate that it gives it.
* `System.step_posted`: what a step does to the mailboxes.
* `System.Told.of_posted`: every step keeps the mailboxes in agreement with the fates of their
  requests.
-/

namespace BrowserGrid.Registry

variable {ω : Type} {s : Setting ω} {callers : Callers}

/-! ### What a section replies -/

/-- What a piece of news tells the caller of a request. -/
def News.replyTo? (id : RequestId) : News → Option Reply
  | .delivered session => if session.requestId = id then some (.session session) else none
  | .dropped other _ => if other = id then some .dropped else none
  | .changed | .bound _ | .ended _ => none

/-- What a caller is told of the fate of its request. -/
def Fate.reply? (receives : Bool) : Fate → Option Reply
  | .bound session => if receives then some (.session session) else none
  | .discarded _ => some .dropped
  | .queued | .withdrawn _ => none

theorem filterMap_replyTo?_ended (id : RequestId) (xs : List Session) :
    (xs.map News.ended).filterMap (News.replyTo? id) = [] := by
  rw [List.filterMap_map]
  exact List.filterMap_eq_nil_iff.2 fun _ _ => rfl

theorem filterMap_replyTo?_bound (id : RequestId) (xs : List Session) :
    (xs.map News.bound).filterMap (News.replyTo? id) = [] := by
  rw [List.filterMap_map]
  exact List.filterMap_eq_nil_iff.2 fun _ _ => rfl

theorem filterMap_replyTo?_dropped (receives : Bool) (id : RequestId) (ids : List RequestId)
    (why : Discard) :
    (ids.map (News.dropped · why)).filterMap (News.replyTo? id) =
      ((ids.map (News.dropped · why)).filterMap (News.fate? id)).filterMap
        (Fate.reply? receives) := by
  rw [List.filterMap_filterMap]
  refine List.filterMap_congr fun n hn => ?_
  obtain ⟨other, _, rfl⟩ := List.mem_map.1 hn
  by_cases h : other = id <;> simp [News.replyTo?, News.fate?, Fate.reply?, h]

theorem filterMap_replyTo?_delivered (receives : RequestId → Bool) (id : RequestId)
    (xs : List Session) :
    ((xs.filter fun x => receives x.requestId).map News.delivered).filterMap
        (News.replyTo? id) =
      ((xs.map News.bound).filterMap (News.fate? id)).filterMap
        (Fate.reply? (receives id)) := by
  rw [List.filterMap_filterMap, List.filterMap_map, List.filterMap_map, List.filterMap_filter]
  refine List.filterMap_congr fun x _ => ?_
  by_cases h : x.requestId = id
  · cases hr : receives id <;> simp [News.replyTo?, News.fate?, Fate.reply?, h, hr]
  · simp [News.replyTo?, News.fate?, h]

namespace Sweep

theorem Visited.delivered_eq {w w' : Sweep ω} {p : PendingRequest}
    (h : Visited s callers w p w')
    (hw : w.delivered = w.bound.filter fun x => callers.receives x.requestId) :
    w'.delivered = w'.bound.filter fun x => callers.receives x.requestId := by
  cases h with
  | discarded => exact hw
  | kept => exact hw
  | refused => exact hw
  | bound =>
    rw [deliver_delivered, deliver_bound, withSession, List.filter_append, hw]
    split <;> rename_i hr <;> simp [hr]

theorem Visited.absent {w w' : Sweep ω} {p : PendingRequest} (h : Visited s callers w p w')
    (hw : ∀ id ∈ w.discarded, callers.present id = false) :
    ∀ id ∈ w'.discarded, callers.present id = false := by
  cases h with
  | discarded habsent =>
    intro id hid
    rcases List.mem_append.1 hid with hid | hid
    · exact hw id hid
    · rw [List.mem_singleton.1 hid, habsent]
  | kept => exact hw
  | refused => exact hw
  | bound =>
    rw [deliver_discarded]
    exact hw

end Sweep

theorem sweep_delivered (s : Setting ω) (callers : Callers) (r : Registry ω) (memory : ω) :
    (r.sweep s callers memory).delivered =
      (r.sweep s callers memory).bound.filter fun x => callers.receives x.requestId := by
  cases hstopped : r.stopped with
  | true =>
    rw [sweep_of_stopped hstopped]
    rfl
  | false =>
    obtain ⟨_, _, w, hpassed⟩ := sweep_passed s callers hstopped memory
    rw [hpassed.delivered_eq, hpassed.bound_eq]
    exact hpassed.visits.preserves Sweep.Visited.delivered_eq rfl

theorem sweep_absent (s : Setting ω) (callers : Callers) (r : Registry ω) (memory : ω) :
    ∀ id ∈ (r.sweep s callers memory).discarded, callers.present id = false := by
  cases hstopped : r.stopped with
  | true =>
    rw [sweep_of_stopped hstopped]
    exact fun id hid => absurd hid List.not_mem_nil
  | false =>
    obtain ⟨_, _, w, hpassed⟩ := sweep_passed s callers hstopped memory
    rw [hpassed.discarded_eq]
    exact hpassed.visits.preserves Sweep.Visited.absent fun id hid => absurd hid List.not_mem_nil

/-- A section replies to a request according to the fate that it gives it. -/
theorem Section.replies_eq {r r' : Registry ω} {freed : Option ProxyId} {news : List News}
    (h : Section s callers r freed r' news) (id : RequestId) :
    news.filterMap (News.replyTo? id) =
      (news.filterMap (News.fate? id)).filterMap (Fate.reply? (callers.receives id)) := by
  cases h with
  | idle => rfl
  | released => rfl
  | removed =>
    rw [List.filterMap_append, List.filterMap_append, filterMap_replyTo?_ended,
      filterMap_fate?_ended]
    rfl
  | staged => rfl
  | replaced =>
    rw [List.filterMap_append, List.filterMap_append, filterMap_replyTo?_ended,
      filterMap_fate?_ended]
    rfl
  | promoted => split <;> rfl
  | swept memory =>
    simp only [SweepResult.news, List.filterMap_append, filterMap_replyTo?_bound,
      filterMap_fate?_delivered, List.nil_append, List.append_nil, sweep_delivered,
      filterMap_replyTo?_delivered, filterMap_replyTo?_dropped (callers.receives id)]
  | stopped =>
    rw [List.filterMap_append, List.filterMap_append, List.filterMap_append,
      filterMap_replyTo?_ended, filterMap_fate?_ended,
      filterMap_replyTo?_dropped (callers.receives id)]
    rfl

/-- A request is discarded for its caller only if the caller is not there. -/
theorem Section.absent {r r' : Registry ω} {freed : Option ProxyId} {news : List News}
    (h : Section s callers r freed r' news) {id : RequestId}
    (hid : .discarded .callerGone ∈ news.filterMap (News.fate? id)) :
    callers.present id = false := by
  obtain ⟨n, hn, hfate⟩ := List.mem_filterMap.1 hid
  have hdropped : n = .dropped id .callerGone := by
    cases n with
    | dropped other why =>
      rw [News.fate?] at hfate
      split at hfate
      · rename_i heq
        rw [heq]
        cases hfate
        rfl
      · cases hfate
    | bound x =>
      rw [News.fate?] at hfate
      split at hfate <;> cases hfate
    | changed | delivered | ended => cases hfate
  subst hdropped
  rcases h.news_cases hn with hother | ⟨_, hother⟩ | ⟨memory, _, rfl⟩ | ⟨out, _, rfl⟩
  · cases hother
  · cases hother
  · refine sweep_absent s callers r memory id ?_
    simpa [SweepResult.news] using hn
  · simp at hn

/-! ### Filling mailboxes -/

namespace Mailbox

/-- The mailbox with a reply put in; the first one stays. -/
def put (m : Mailbox) (reply : Reply) : Mailbox :=
  if m.reply = .awaited then { m with reply } else m

@[simp] theorem put_request (m : Mailbox) (reply : Reply) : (m.put reply).request = m.request := by
  unfold put; split <;> rfl

@[simp] theorem put_held (m : Mailbox) (reply : Reply) : (m.put reply).held = m.held := by
  unfold put; split <;> rfl

@[simp] theorem foldl_put_request (m : Mailbox) (replies : List Reply) :
    (replies.foldl put m).request = m.request := by
  induction replies generalizing m with
  | nil => rfl
  | cons reply replies ih => rw [List.foldl_cons, ih, put_request]

@[simp] theorem foldl_put_held (m : Mailbox) (replies : List Reply) :
    (replies.foldl put m).held = m.held := by
  induction replies generalizing m with
  | nil => rfl
  | cons reply replies ih => rw [List.foldl_cons, ih, put_held]

theorem put_of_awaited {m : Mailbox} (h : m.reply = .awaited) (reply : Reply) :
    (m.put reply).reply = reply := by
  rw [put, if_pos h]

/-- A mailbox agrees with the fate of its request; a caller that is gone may not have been told. -/
def Agrees (m : Mailbox) : Fate → Prop
  | .queued => m.reply = .awaited
  | .bound session => m.reply = .session session ∨ (m.reply = .awaited ∧ m.held = false)
  | .withdrawn own => m.reply = .dropped ∧ (own = true → m.held = false)
  | .discarded why => m.reply = .dropped ∧ (why = .callerGone → m.held = false)

/-- The same mailbox, except that its handle may have been dropped. -/
structure Left (m m' : Mailbox) : Prop where
  request : m'.request = m.request
  reply : m'.reply = m.reply
  held : m'.held = true → m.held = true

theorem Left.held_eq_false {m m' : Mailbox} (h : m.Left m') (hm : m.held = false) :
    m'.held = false := by
  cases hheld : m'.held with
  | false => rfl
  | true => exact absurd (h.held hheld) (by simp [hm])

theorem Agrees.of_left {m m' : Mailbox} {f : Fate} (hm : m.Agrees f) (h : m.Left m') :
    m'.Agrees f := by
  cases f with
  | queued => exact h.reply.trans hm
  | bound session =>
    exact hm.imp h.reply.trans fun ⟨hreply, hheld⟩ =>
      ⟨h.reply.trans hreply, h.held_eq_false hheld⟩
  | withdrawn own => exact ⟨h.reply.trans hm.1, fun hown => h.held_eq_false (hm.2 hown)⟩
  | discarded why => exact ⟨h.reply.trans hm.1, fun hwhy => h.held_eq_false (hm.2 hwhy)⟩

end Mailbox

theorem fillMailbox_eq (mailboxes : List Mailbox) (id : RequestId) (reply : Reply) :
    fillMailbox mailboxes id reply =
      mailboxes.map fun m => if m.request = id then m.put reply else m := by
  refine List.map_congr_left fun m _ => ?_
  by_cases hid : m.request = id <;> by_cases hreply : m.reply = .awaited <;>
    simp [Mailbox.put, hid, hreply]

theorem tell_eq (mailboxes : List Mailbox) (n : News) :
    tell mailboxes n =
      mailboxes.map fun m => (n.replyTo? m.request).toList.foldl Mailbox.put m := by
  cases n with
  | changed | bound | ended => exact (List.map_id' mailboxes).symm
  | delivered x =>
    rw [tell, News.reply?]
    dsimp only
    rw [fillMailbox_eq]
    refine List.map_congr_left fun m _ => ?_
    by_cases h : m.request = x.requestId
    · simp [News.replyTo?, h]
    · simp [News.replyTo?, h, Ne.symm h]
  | dropped id why =>
    rw [tell, News.reply?]
    dsimp only
    rw [fillMailbox_eq]
    refine List.map_congr_left fun m _ => ?_
    by_cases h : m.request = id
    · simp [News.replyTo?, h]
    · simp [News.replyTo?, h, Ne.symm h]

theorem foldl_tell_eq (news : List News) (mailboxes : List Mailbox) :
    news.foldl tell mailboxes =
      mailboxes.map fun m => (news.filterMap (News.replyTo? m.request)).foldl Mailbox.put m := by
  induction news generalizing mailboxes with
  | nil => exact (List.map_id' mailboxes).symm
  | cons n news ih =>
    rw [List.foldl_cons, ih, tell_eq, List.map_map]
    refine List.map_congr_left fun m _ => ?_
    rw [Function.comp_apply, Mailbox.foldl_put_request, ← List.foldl_append]
    cases hn : n.replyTo? m.request with
    | none => rw [List.filterMap_cons_none hn]; rfl
    | some reply => rw [List.filterMap_cons_some hn]; rfl

theorem releaseMailbox_left (id : RequestId) (m : Mailbox) :
    m.Left (if m.request = id then { m with held := false } else m) := by
  split
  · exact ⟨rfl, rfl, fun h => by cases h⟩
  · exact ⟨rfl, rfl, fun h => h⟩

/-! ### Mailboxes and fates -/

/-- A section gives no fate but these. -/
theorem News.fate?_cases {id : RequestId} {n : News} {f : Fate} (h : n.fate? id = some f) :
    (∃ x, f = .bound x) ∨ ∃ why, f = .discarded why := by
  cases n with
  | bound x =>
    rw [News.fate?] at h
    split at h <;> cases h
    exact .inl ⟨x, rfl⟩
  | dropped other why =>
    rw [News.fate?] at h
    split at h <;> cases h
    exact .inr ⟨why, rfl⟩
  | changed | delivered | ended => cases h

/-- A section replies to a request that leaves the queue according to its fate, unless the handle
is dropped. -/
theorem Section.agrees {r r' : Registry ω} {freed : Option ProxyId} {news : List News}
    (h : Section s callers r freed r' news) {m m' : Mailbox} (hqueued : m.Agrees .queued) {f : Fate}
    (hf : f ∈ news.filterMap (News.fate? m.request))
    (hreply : m'.reply =
      ((f.reply? (callers.receives m.request)).toList.foldl Mailbox.put m).reply)
    (hheld : m'.held = true →
      callers.present m.request = true ∧ callers.receives m.request = true) : m'.Agrees f := by
  -- a section binds or discards; only a withdrawal withdraws
  obtain ⟨n, _, hn⟩ := List.mem_filterMap.1 hf
  rcases News.fate?_cases hn with ⟨x, rfl⟩ | ⟨why, rfl⟩
  · cases hreceives : callers.receives m.request with
    | true =>
      rw [hreceives] at hreply
      exact .inl (hreply.trans (Mailbox.put_of_awaited hqueued _))
    | false =>
      rw [hreceives] at hreply
      refine .inr ⟨hreply.trans hqueued, Bool.eq_false_iff.2 fun htrue => ?_⟩
      rw [(hheld htrue).2] at hreceives
      cases hreceives
  · refine ⟨hreply.trans (Mailbox.put_of_awaited hqueued _), ?_⟩
    rintro rfl
    refine Bool.eq_false_iff.2 fun htrue => ?_
    have habsent := h.absent hf
    rw [(hheld htrue).1] at habsent
    cases habsent

namespace System

/-- Either nothing happens to a request, or it leaves the queue. -/
theorem fates_step {σ τ : System ω} {events : List (Event ω)}
    (hhistory : τ.history = σ.history ++ events) {id : RequestId} {f g : Fate}
    (hf : σ.fates id = [f]) (hg : τ.fates id = [g]) :
    (events.filterMap (Event.fate? id) = [] ∧ g = f) ∨
      (f = .queued ∧ events.filterMap (Event.fate? id) = [g]) := by
  -- a single fate is either open, with nothing in the history, or the one event of the history
  have hlength : ∀ {ρ : System ω} {h : Fate}, ρ.fates id = [h] →
      (ρ.history.filterMap (Event.fate? id) = [] ∧ h = .queued) ∨
        ρ.history.filterMap (Event.fate? id) = [h] := by
    intro ρ h hρ
    by_cases hh : h = .queued
    · rw [fates] at hρ
      cases hqueue : ρ.registry.pending.filter (·.request.id = id) with
      | nil => exact .inr (by rwa [hqueue, List.map_nil, List.nil_append] at hρ)
      | cons p rest =>
        rw [hqueue, List.map_cons, List.cons_append] at hρ
        exact .inl ⟨(List.append_eq_nil_iff.1 (List.cons.inj hρ).2).2, hh⟩
    · exact .inr (history_of_fates hρ hh)
  have hafter := hlength hg
  rw [hhistory, List.filterMap_append] at hafter
  rcases hlength hf with ⟨hnil, hqueued⟩ | hone
  · rw [hnil, List.nil_append] at hafter
    rcases hafter with ⟨hevents, hgq⟩ | hevents
    · exact .inl ⟨hevents, hgq.trans hqueued.symm⟩
    · exact .inr ⟨hqueued, hevents⟩
  · rw [hone] at hafter
    rcases hafter with ⟨hevents, _⟩ | hevents
    · cases hevents
    · obtain ⟨hgf, hevents⟩ := List.cons.inj hevents
      exact .inl ⟨hevents, hgf.symm⟩

/-- Only the queue holds requests whose fate is open. -/
theorem queuedIn_pos_of_fates {σ : System ω} {id : RequestId} (h : .queued ∈ σ.fates id) :
    0 < queuedIn σ.registry.pending id := by
  rcases List.mem_append.1 h with h | h
  · obtain ⟨p, hp, _⟩ := List.mem_map.1 h
    obtain ⟨hp, hid⟩ := List.mem_filter.1 hp
    exact List.countP_pos_iff.2 ⟨p, hp, hid⟩
  · obtain ⟨e, _, he⟩ := List.mem_filterMap.1 h
    cases e with
    | reported ticket op n =>
      rcases News.fate?_cases he with ⟨x, hx⟩ | ⟨why, hwhy⟩
      · cases hx
      · cases hwhy
    | withdrawal other own found =>
      rw [Event.fate?] at he
      split at he <;> cases he
    | submitted | paused | answered | abandoned => cases he

/-- Every admitted request has a mailbox, which agrees with its fate. -/
structure Told (σ : System ω) : Prop where
  /-- There is a mailbox for every request. -/
  requests : σ.mailboxes.map (·.request) = σ.admitted
  /-- It agrees with the fate of the request. -/
  agrees : ∀ m ∈ σ.mailboxes, ∀ f, σ.fates m.request = [f] → m.Agrees f

theorem Told.initial (memory : ω) : (System.initial memory).Told where
  requests := rfl
  agrees := fun _ hm => absurd hm List.not_mem_nil

theorem Told.mem_admitted {σ : System ω} (h : σ.Told) {m : Mailbox} (hm : m ∈ σ.mailboxes) :
    m.request ∈ σ.admitted := by
  rw [← h.requests]
  exact List.mem_map_of_mem hm

variable {σ τ : System ω}

/-- A step under which no mailbox is opened and each changes in a way that keeps it in agreement. -/
theorem Told.of_map (hσ : σ.Told) (hc : σ.Conserved) (hfresh : σ.FreshRequests)
    {events : List (Event ω)} (hhistory : τ.history = σ.history ++ events)
    (hadmitted : events.filterMap Event.admitted? = []) (change : Mailbox → Mailbox)
    (hmailboxes : τ.mailboxes = σ.mailboxes.map change)
    (hrequest : ∀ m ∈ σ.mailboxes, (change m).request = m.request)
    (hkeep : ∀ m ∈ σ.mailboxes, ∀ f, m.Agrees f →
      events.filterMap (Event.fate? m.request) = [] → (change m).Agrees f)
    (hleave : ∀ m ∈ σ.mailboxes, m.Agrees .queued →
      ∀ f, events.filterMap (Event.fate? m.request) = [f] → (change m).Agrees f) :
    τ.Told where
  requests := by
    rw [hmailboxes, List.map_map, admitted_append hhistory, hadmitted, List.append_nil,
      ← hσ.requests]
    exact List.map_congr_left hrequest
  agrees := fun m' hm' g hg => by
    rw [hmailboxes] at hm'
    obtain ⟨m, hm, rfl⟩ := List.mem_map.1 hm'
    rw [hrequest m hm] at hg
    obtain ⟨f, hf⟩ := hc.exists_fate hfresh (hσ.mem_admitted hm)
    -- either nothing became of the request, or it has just left the queue
    rcases fates_step hhistory hf hg with ⟨hevents, rfl⟩ | ⟨rfl, hevents⟩
    · exact hkeep m hm g (hσ.agrees m hm g hf) hevents
    · exact hleave m hm (hσ.agrees m hm .queued hf) g hevents

/-- A step under which handles may be dropped and nothing becomes of any request. -/
theorem Told.of_left (hσ : σ.Told) (hc : σ.Conserved) (hfresh : σ.FreshRequests)
    {events : List (Event ω)} (hhistory : τ.history = σ.history ++ events)
    (hadmitted : events.filterMap Event.admitted? = [])
    (hfates : ∀ id, events.filterMap (Event.fate? id) = []) (change : Mailbox → Mailbox)
    (hmailboxes : τ.mailboxes = σ.mailboxes.map change)
    (hleft : ∀ m : Mailbox, m.Left (change m)) : τ.Told := by
  refine hσ.of_map hc hfresh hhistory hadmitted change hmailboxes (fun m _ => (hleft m).request)
    (fun m _ f hf _ => hf.of_left (hleft m)) fun m _ _ f hevents => ?_
  rw [hfates] at hevents
  cases hevents

/-- A section of an operation, during which handles may be dropped. -/
theorem Told.of_section (hσ : σ.Told) (hc : σ.Conserved) (hfresh : σ.FreshRequests)
    {freed : Option ProxyId} {turn : Turn ω} {ticket : Nat} {op : Operation ω}
    (hsection : Section s callers σ.registry freed turn.registry turn.news)
    (hhistory : τ.history = σ.history ++ turn.events ticket op) (change : Mailbox → Mailbox)
    (hmailboxes : τ.mailboxes = (turn.news.foldl tell σ.mailboxes).map change)
    (hleft : ∀ m : Mailbox, m.Left (change m))
    (hheld : ∀ m : Mailbox, (m.held = true → isHeld σ.mailboxes m.request = true) →
      (change m).held = true →
        callers.present m.request = true ∧ callers.receives m.request = true) : τ.Told := by
  -- what the section makes of a mailbox, before handles are dropped
  let tellOne (m : Mailbox) : Mailbox :=
    (turn.news.filterMap (News.replyTo? m.request)).foldl Mailbox.put m
  have hrequest : ∀ m : Mailbox, (change (tellOne m)).request = m.request := fun m => by
    rw [(hleft _).request, Mailbox.foldl_put_request]
  have hgone : ∀ m ∈ σ.mailboxes, (change (tellOne m)).held = true →
      callers.present m.request = true ∧ callers.receives m.request = true := by
    intro m hm htrue
    have hcallers := hheld (tellOne m) (fun hheld => ?_) htrue
    · rwa [Mailbox.foldl_put_request] at hcallers
    · rw [Mailbox.foldl_put_held] at hheld
      rw [Mailbox.foldl_put_request]
      exact List.any_eq_true.2 ⟨m, hm, by simp [hheld]⟩
  -- without a fate there is no reply, and with one there is the reply that goes with it
  refine hσ.of_map hc hfresh hhistory (filterMap_admitted?_events ..) (change ∘ tellOne) ?_
    (fun m _ => hrequest m) (fun m hm f hf hevents => ?_) fun m hm hqueued f hevents => ?_
  · rw [hmailboxes, foldl_tell_eq, List.map_map]
  · rw [filterMap_fate?_events] at hevents
    have hreplies : tellOne m = m := by
      simp only [tellOne, hsection.replies_eq, hevents, List.filterMap_nil, List.foldl_nil]
    rw [Function.comp_apply, hreplies]
    exact hf.of_left (hleft m)
  · rw [filterMap_fate?_events] at hevents
    have hreply : (change (tellOne m)).reply =
        ((f.reply? (callers.receives m.request)).toList.foldl Mailbox.put m).reply := by
      rw [(hleft _).reply]
      simp only [tellOne, hsection.replies_eq, hevents, List.filterMap_cons, List.filterMap_nil]
      cases f.reply? (callers.receives m.request) <;> rfl
    have hmem : f ∈ turn.news.filterMap (News.fate? m.request) := by
      rw [hevents]
      exact List.mem_singleton.2 rfl
    exact hsection.agrees hqueued hmem hreply (hgone m hm)

/-- A withdrawal; the wait that withdraws its own request lets go of the handle. -/
theorem Told.of_withdrawal (hσ : σ.Told) (hc : σ.Conserved) (hfresh : σ.FreshRequests)
    {id : RequestId} {own : Bool}
    (hhistory : τ.history = σ.history ++ [.withdrawal id own (σ.registry.withdraw id).1])
    (change : Mailbox → Mailbox)
    (hmailboxes : τ.mailboxes = (if (σ.registry.withdraw id).1 then
      fillMailbox σ.mailboxes id .dropped else σ.mailboxes).map change)
    (hleft : ∀ m : Mailbox, m.Left (change m))
    (hown : own = true → (σ.registry.withdraw id).1 = true →
      ∀ m : Mailbox, m.request = id → (change m).held = false) : τ.Told := by
  cases hfound : (σ.registry.withdraw id).1 with
  | false =>
    rw [hfound] at hhistory hmailboxes
    exact hσ.of_left hc hfresh hhistory rfl
      (fun _ => List.filterMap_cons_none (if_neg (by simp))) change hmailboxes hleft
  | true =>
    rw [hfound, if_pos rfl, fillMailbox_eq, List.map_map] at hmailboxes
    rw [hfound] at hhistory
    -- the mailbox of the request is closed, all others stay as they are
    have hput : ∀ m : Mailbox, (if m.request = id then m.put .dropped else m).request =
        m.request := fun m => by split <;> simp
    refine hσ.of_map hc hfresh hhistory rfl _ hmailboxes
      (fun m _ => (hleft _).request.trans (hput m)) (fun m _ f hf hevents => ?_)
      fun m _ hqueued f hevents => ?_
    · have hne : m.request ≠ id := by
        rintro rfl
        simp [Event.fate?] at hevents
      rw [Function.comp_apply, if_neg hne]
      exact hf.of_left (hleft m)
    · have heq : id = m.request ∧ f = .withdrawn own := by
        by_cases hid : id = m.request
        · simp only [Event.fate?, hid, true_and, if_true, List.filterMap_cons,
            List.filterMap_nil] at hevents
          exact ⟨hid, (List.cons.inj hevents).1.symm⟩
        · simp [Event.fate?, hid] at hevents
      obtain ⟨rfl, rfl⟩ := heq
      rw [Function.comp_apply, if_pos rfl]
      exact ⟨(hleft _).reply.trans (Mailbox.put_of_awaited hqueued _),
        fun h => hown h hfound _ (Mailbox.put_request ..)⟩

theorem Told.of_admitted (hσ : σ.Told) (hc : σ.Conserved) (hfresh : σ.FreshRequests)
    {request : Request} (hregistry : τ.registry = σ.registry.enqueue request)
    (hhistory : τ.history = σ.history ++ [.submitted (.ok request.id)])
    (hmailboxes : τ.mailboxes = σ.mailboxes ++ [{ request := request.id }]) : τ.Told where
  requests := by
    rw [hmailboxes, List.map_append, hσ.requests, admitted_append hhistory]
    rfl
  agrees := fun m hm g hg => by
    rw [hmailboxes] at hm
    rcases List.mem_append.1 hm with hm | hm
    · obtain ⟨f, hf⟩ := hc.exists_fate hfresh (hσ.mem_admitted hm)
      rcases fates_step hhistory hf hg with ⟨_, rfl⟩ | ⟨_, hevents⟩
      · exact hσ.agrees m hm g hf
      · cases hevents
    · obtain rfl := List.mem_singleton.1 hm
      have hqueued : Fate.queued ∈ τ.fates request.id := by
        rw [fates, hregistry, enqueue]
        simp
      rw [hg, List.mem_singleton] at hqueued
      rw [← hqueued]
      rfl

theorem callers_of_leave (d : Departures) (mailboxes : List Mailbox) {m : Mailbox}
    (hheld : m.held = true → isHeld mailboxes m.request = true)
    (h : (m.held && !d.early m.request && !d.late m.request) = true) :
    (d.callers mailboxes).present m.request = true ∧
      (d.callers mailboxes).receives m.request = true := by
  simp only [Bool.and_eq_true, Bool.not_eq_true'] at h
  obtain ⟨⟨hm, hearly⟩, hlate⟩ := h
  simp [Departures.callers, hheld hm, hearly, hlate]

theorem releaseMailbox_eq (mailboxes : List Mailbox) (id : RequestId) :
    releaseMailbox mailboxes id =
      mailboxes.map fun m => if m.request = id then { m with held := false } else m :=
  rfl

/-- The step from `σ` to `τ`, one constructor for each way in which it changes `mailboxes`, with the
events that it adds to the history. -/
inductive Posted (s : Setting ω) (σ τ : System ω) : Prop where
  /-- Nothing, and it makes nothing of a request. -/
  | still (events : List (Event ω)) (hhistory : τ.history = σ.history ++ events)
    (hadmitted : events.filterMap Event.admitted? = [])
    (hfates : ∀ id, events.filterMap (Event.fate? id) = [])
    (hmailboxes : τ.mailboxes = σ.mailboxes)
  /-- A handle is dropped, or used up. -/
  | dropped (id : RequestId) (hhistory : τ.history = σ.history)
    (hmailboxes : τ.mailboxes = releaseMailbox σ.mailboxes id)
  /-- A request that is admitted has a mailbox. -/
  | admitted (request : Request) (hregistry : τ.registry = σ.registry.enqueue request)
    (hhistory : τ.history = σ.history ++ [.submitted (.ok request.id)])
    (hmailboxes : τ.mailboxes = σ.mailboxes ++ [{ request := request.id }])
  /-- A withdrawal closes the mailbox of the request that it finds, which is not its own. -/
  | withdrawn (id : RequestId) (own : Bool)
    (hhistory : τ.history = σ.history ++ [.withdrawal id own (σ.registry.withdraw id).1])
    (hmailboxes : τ.mailboxes = (σ.afterWithdrawal id own).mailboxes)
    (hown : own = true → (σ.registry.withdraw id).1 = false)
  /-- A wait that withdraws its own request lets go of the handle too. -/
  | expired (id : RequestId)
    (hhistory : τ.history = σ.history ++ [.withdrawal id true (σ.registry.withdraw id).1])
    (hmailboxes : τ.mailboxes = releaseMailbox (σ.afterWithdrawal id true).mailboxes id)
  /-- The first section of an operation fills mailboxes, and handles are dropped meanwhile. -/
  | begun (ticket : Nat) (op : Operation ω) (d : Departures)
    (hhistory : τ.history = σ.history ++
      (op.start s (d.callers σ.mailboxes) σ.registry σ.memory).events ticket op)
    (hmailboxes : τ.mailboxes = d.leave
      ((op.start s (d.callers σ.mailboxes) σ.registry σ.memory).news.foldl tell σ.mailboxes))
  /-- A later section of an operation fills mailboxes. -/
  | resumed (c : Underway ω) (prepared : Bool)
    (hhistory : τ.history = σ.history ++
      (c.call.resume σ.registry σ.memory prepared).events c.ticket c.operation)
    (hmailboxes : τ.mailboxes =
      (c.call.resume σ.registry σ.memory prepared).news.foldl tell σ.mailboxes)

theorem Posted.of_same (hhistory : τ.history = σ.history) (hmailboxes : τ.mailboxes = σ.mailboxes) :
    Posted s σ τ :=
  .still [] (hhistory.trans (List.append_nil _).symm) rfl (fun _ => rfl) hmailboxes

theorem step_posted (σ : System ω) (a : Action ω) : Posted s σ (System.step s σ a) := by
  cases a with
  | submit requested =>
    rw [System.step]
    rcases submit_cases s σ.registry requested σ.memory with ⟨error, _, h⟩ | ⟨_, _, h⟩ <;>
      rw [afterSubmit, h]
    · exact .still _ rfl rfl (fun _ => rfl) rfl
    · exact .admitted _ rfl rfl rfl
  | withdraw id => exact .withdrawn id false rfl rfl (absurd · Bool.false_ne_true)
  | begin op d => exact .begun σ.begun op d rfl rfl
  | resume ticket prepared =>
    rw [System.step, afterResume]
    split
    · rename_i c hc
      obtain rfl := (mem_of_call? hc).2
      exact .resumed c prepared rfl rfl
    · exact .of_same rfl rfl
  | abandon ticket =>
    rw [System.step, afterAbandon]
    split
    · exact .still _ rfl rfl (fun _ => rfl) rfl
    · exact .of_same rfl rfl
  | wait id timeout =>
    rw [System.step, afterWait]
    split <;> exact .of_same rfl rfl
  | receive id =>
    rw [System.step, afterReceive]
    split
    · split
      · exact .dropped id rfl rfl
      · exact .of_same rfl rfl
    · exact .of_same rfl rfl
  | expire id =>
    rw [System.step, afterExpire]
    split <;> exact .of_same rfl rfl
  | giveUp id =>
    rw [System.step, afterGiveUp]
    split
    · dsimp only
      split
      · exact .expired id rfl rfl
      · rename_i hfound
        exact .withdrawn id true rfl rfl fun _ => Bool.eq_false_iff.2 hfound
    · exact .of_same rfl rfl
  | depart id => exact .dropped id rfl rfl
  | activate | provisioningFailed | remember => exact .of_same rfl rfl

theorem Told.of_posted (h : Posted s σ τ) (hσ : σ.Told) (hc : σ.Conserved)
    (hfresh : σ.FreshRequests) : τ.Told := by
  have hid : ∀ m : Mailbox, m.Left (id m) := fun m => ⟨rfl, rfl, fun h => h⟩
  cases h with
  | still events hhistory hadmitted hfates hmailboxes =>
    exact hσ.of_left hc hfresh hhistory hadmitted hfates id (by rw [hmailboxes, List.map_id]) hid
  | dropped id hhistory hmailboxes =>
    exact hσ.of_left hc hfresh (hhistory.trans (List.append_nil _).symm) rfl (fun _ => rfl) _
      hmailboxes (releaseMailbox_left id)
  | admitted request hregistry hhistory hmailboxes =>
    exact hσ.of_admitted hc hfresh hregistry hhistory hmailboxes
  | withdrawn id own hhistory hmailboxes hown =>
    refine hσ.of_withdrawal hc hfresh hhistory _ (hmailboxes.trans (List.map_id _).symm) hid
      fun htrue hfound => ?_
    rw [hown htrue] at hfound
    cases hfound
  | expired id hhistory hmailboxes =>
    refine hσ.of_withdrawal hc hfresh hhistory _ (hmailboxes.trans (releaseMailbox_eq ..))
      (releaseMailbox_left id) fun _ _ m hm => ?_
    rw [if_pos hm]
  | begun ticket op d hhistory hmailboxes =>
    exact hσ.of_section hc hfresh (start_section (d.callers σ.mailboxes) ..) hhistory _ hmailboxes
      (fun m => ⟨rfl, rfl, fun h => by simp at h; exact h.1.1⟩)
      fun m hheld h => callers_of_leave d σ.mailboxes hheld h
  | resumed c prepared hhistory hmailboxes =>
    exact hσ.of_section hc hfresh (resume_section s everybody ..) hhistory id
      (hmailboxes.trans (List.map_id _).symm) hid fun _ _ _ => ⟨rfl, rfl⟩

end System

/-! ### Handles are dropped for good -/

/-- The same mailboxes, perhaps filled and with fewer handles held. -/
def Kept (before after : List Mailbox) : Prop :=
  ∃ change : Mailbox → Mailbox, after = before.map change ∧
    ∀ m, (change m).request = m.request ∧ ((change m).held = true → m.held = true)

namespace Kept

variable {mailboxes before after : List Mailbox}

theorem refl (mailboxes : List Mailbox) : Kept mailboxes mailboxes :=
  ⟨id, (List.map_id _).symm, fun _ => ⟨rfl, fun h => h⟩⟩

theorem trans (h : Kept mailboxes before) (h' : Kept before after) : Kept mailboxes after := by
  obtain ⟨f, rfl, hf⟩ := h
  obtain ⟨g, rfl, hg⟩ := h'
  exact ⟨g ∘ f, List.map_map, fun m =>
    ⟨(hg (f m)).1.trans (hf m).1, fun hheld => (hf m).2 ((hg (f m)).2 hheld)⟩⟩

theorem isHeld (h : Kept before after) {id : RequestId}
    (hheld : Registry.isHeld after id = true) : Registry.isHeld before id = true := by
  obtain ⟨f, rfl, hf⟩ := h
  obtain ⟨m', hm', hid⟩ := List.any_eq_true.1 hheld
  obtain ⟨m, hm, rfl⟩ := List.mem_map.1 hm'
  simp only [Bool.and_eq_true, decide_eq_true_eq] at hid
  refine List.any_eq_true.2 ⟨m, hm, ?_⟩
  simp only [Bool.and_eq_true, decide_eq_true_eq]
  exact ⟨(hf m).1.symm.trans hid.1, (hf m).2 hid.2⟩

theorem fill (mailboxes : List Mailbox) (id : RequestId) (reply : Reply) :
    Kept mailboxes (fillMailbox mailboxes id reply) := by
  refine ⟨_, fillMailbox_eq .., fun m => ?_⟩
  split
  · exact ⟨Mailbox.put_request .., fun h => by rwa [Mailbox.put_held] at h⟩
  · exact ⟨rfl, fun h => h⟩

theorem tellAll (mailboxes : List Mailbox) (news : List News) :
    Kept mailboxes (news.foldl tell mailboxes) :=
  ⟨_, foldl_tell_eq .., fun m => ⟨Mailbox.foldl_put_request .., fun h => by
    rwa [Mailbox.foldl_put_held] at h⟩⟩

theorem release (mailboxes : List Mailbox) (id : RequestId) :
    Kept mailboxes (releaseMailbox mailboxes id) :=
  ⟨_, rfl, fun m => ⟨(releaseMailbox_left id m).request, (releaseMailbox_left id m).held⟩⟩

theorem leave (mailboxes : List Mailbox) (d : Departures) : Kept mailboxes (d.leave mailboxes) :=
  ⟨_, rfl, fun m => ⟨rfl, fun h => by
    simp only [Bool.and_eq_true] at h
    exact h.1.1⟩⟩

end Kept

namespace System

theorem afterWithdrawal_kept (σ : System ω) (id : RequestId) (own : Bool) :
    Kept σ.mailboxes (σ.afterWithdrawal id own).mailboxes := by
  rw [afterWithdrawal]
  dsimp only
  split
  · exact .fill ..
  · exact .refl _

/-- In a step nobody takes up a handle, except for a request that is just being admitted. -/
theorem Posted.held_before {σ τ : System ω} (h : Posted s σ τ) {id : RequestId}
    (hheld : isHeld τ.mailboxes id = true) :
    isHeld σ.mailboxes id = true ∨ τ.history = σ.history ++ [.submitted (.ok id)] := by
  cases h with
  | still _ _ _ _ hmailboxes => exact .inl (hmailboxes ▸ hheld)
  | dropped other _ hmailboxes =>
    rw [hmailboxes] at hheld
    exact .inl ((Kept.release _ other).isHeld hheld)
  | admitted request _ hhistory hmailboxes =>
    rw [hmailboxes] at hheld
    obtain ⟨m, hm, hid⟩ := List.any_eq_true.1 hheld
    rcases List.mem_append.1 hm with hm | hm
    · exact .inl (List.any_eq_true.2 ⟨m, hm, hid⟩)
    · obtain rfl := List.mem_singleton.1 hm
      simp only [Bool.and_true, decide_eq_true_eq] at hid
      rw [← hid]
      exact .inr hhistory
  | withdrawn other own _ hmailboxes =>
    rw [hmailboxes] at hheld
    exact .inl ((afterWithdrawal_kept σ other own).isHeld hheld)
  | expired other _ hmailboxes =>
    rw [hmailboxes] at hheld
    exact .inl (((afterWithdrawal_kept σ other true).trans (.release _ other)).isHeld hheld)
  | begun ticket op d _ hmailboxes =>
    rw [hmailboxes] at hheld
    exact .inl (((Kept.tellAll ..).trans (.leave _ d)).isHeld hheld)
  | resumed c prepared _ hmailboxes =>
    rw [hmailboxes] at hheld
    exact .inl ((Kept.tellAll ..).isHeld hheld)

/-- A handle that has been dropped stays dropped. -/
theorem not_isHeld_run {σ : System ω} {id : RequestId} (hid : id ∈ σ.admitted)
    (h : isHeld σ.mailboxes id = false) (actions : List (Action ω))
    (hfresh : (σ.run s actions).FreshRequests) :
    isHeld (σ.run s actions).mailboxes id = false := by
  induction actions generalizing σ with
  | nil => exact h
  | cons a actions ih =>
    have hrest : ((step s σ a).run s actions).FreshRequests := hfresh
    obtain ⟨events, hhistory⟩ := (step_moved (s := s) σ a).exists_history
    refine ih (by rw [admitted_append hhistory]; exact List.mem_append_left _ hid) ?_ hrest
    -- the handle would have come with a second admission of the request
    refine Bool.eq_false_iff.2 fun hheld => ?_
    rcases (step_posted σ a).held_before hheld with hbefore | hadmitted
    · rw [h] at hbefore
      cases hbefore
    · have hnodup : (step s σ a).FreshRequests := hrest.of_run
      rw [FreshRequests, admitted_append hadmitted] at hnodup
      exact (List.nodup_append.1 hnodup).2.2 id hid id (List.mem_singleton.2 rfl) rfl

end System

end BrowserGrid.Registry
