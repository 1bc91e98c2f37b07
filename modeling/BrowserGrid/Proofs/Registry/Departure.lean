import BrowserGrid.Proofs.Registry.Bijection
import BrowserGrid.Proofs.Registry.Endings

/-!
# Callers that go away

When the handle of a request is dropped, the next sweep discards the request, and a sweep that finds
the handle gone as it hands over the session releases the session.  A session that lies in the
mailbox as the handle is dropped is released by nobody.

* `System.noneLeft_iff`: once what was under way is over and one more sweep has been made, nothing
  is left of a request whose handle was dropped, unless its session had been handed over, or the
  sweep that bound it was cut short, and nothing else has ended the session since.
-/

namespace BrowserGrid.Registry

variable {ω : Type} {s : Setting ω} {callers : Callers}

/-! ### A sweep and the requests whose callers are gone -/

namespace Sweep

theorem Visited.bound_present {w w' : Sweep ω} {p : PendingRequest}
    (h : Visited s callers w p w')
    (hw : ∀ x ∈ w.bound, callers.present x.requestId = true) :
    ∀ x ∈ w'.bound, callers.present x.requestId = true := by
  cases h with
  | discarded => exact hw
  | kept => exact hw
  | refused => exact hw
  | bound hpresent =>
    rw [deliver_bound, withSession]
    intro x hx
    rcases List.mem_append.1 hx with hx | hx
    · exact hw x hx
    · rw [List.mem_singleton.1 hx]
      exact hpresent

theorem Visited.remaining_present {w w' : Sweep ω} {p : PendingRequest}
    (h : Visited s callers w p w')
    (hw : ∀ q ∈ w.remaining, callers.present q.request.id = true) :
    ∀ q ∈ w'.remaining, callers.present q.request.id = true := by
  cases h with
  | discarded => exact hw
  | kept hpresent memory q toProvision hq =>
    intro q' hq'
    rcases List.mem_append.1 hq' with hq' | hq'
    · exact hw q' hq'
    · rw [List.mem_singleton.1 hq', hq]
      exact hpresent
  | refused hpresent =>
    intro q' hq'
    rcases List.mem_append.1 hq' with hq' | hq'
    · exact hw q' hq'
    · rw [List.mem_singleton.1 hq']
      exact hpresent
  | bound =>
    rw [deliver_remaining]
    exact hw

end Sweep

/-- A section binds requests only whose callers are there. -/
theorem Section.bound_present {r r' : Registry ω} {freed : Option ProxyId} {news : List News}
    (h : Section s callers r freed r' news) {x : Session} (hx : News.bound x ∈ news) :
    callers.present x.requestId = true := by
  rcases h.news_cases hx with hother | ⟨_, hother⟩ | ⟨memory, _, rfl⟩ | ⟨out, _, rfl⟩
  · cases hother
  · cases hother
  · rw [← mem_filterMap_bound?, filterMap_bound?_news] at hx
    cases hstopped : r.stopped with
    | true =>
      rw [sweep_of_stopped hstopped] at hx
      exact absurd hx List.not_mem_nil
    | false =>
      obtain ⟨_, _, w, hpassed⟩ := sweep_passed s callers hstopped memory
      rw [hpassed.bound_eq] at hx
      exact hpassed.visits.preserves Sweep.Visited.bound_present
        (fun _ h => absurd h List.not_mem_nil) x hx
  · simp at hx

/-- A pass over the queue leaves only requests in it whose callers are there. -/
theorem sweep_clears {r : Registry ω} (hstopped : r.stopped = false) (memory : ω)
    {id : RequestId} (habsent : callers.present id = false) :
    queuedIn (r.sweep s callers memory).registry.pending id = 0 := by
  obtain ⟨_, _, w, hpassed⟩ := sweep_passed s callers hstopped memory
  -- what a pass puts back into the queue has a caller
  have hremaining := hpassed.visits.preserves Sweep.Visited.remaining_present
    fun _ h => absurd h List.not_mem_nil
  rw [hpassed.registry_eq]
  refine List.countP_eq_zero.2 fun q hq hid => ?_
  simp only [decide_eq_true_eq] at hid
  cases hbroken : (r.sweep s callers memory).broken with
  | true =>
    rw [hbroken] at hq
    exact absurd hq List.not_mem_nil
  | false =>
    rw [hbroken] at hq
    have hpresent := hremaining q hq
    rw [hid, habsent] at hpresent
    cases hpresent

theorem Section.stopped_or {r r' : Registry ω} {freed : Option ProxyId} {news : List News}
    (h : Section s callers r freed r' news) (hstopped : r'.stopped = true) :
    r.stopped = true ∨ r'.pending = [] := by
  rcases h.stopped_cases hstopped with hbefore | ⟨out, hstop⟩
  · exact .inl hbefore
  · obtain ⟨_, _, _, rfl⟩ := stop_eq hstop
    exact .inr rfl

theorem Event.eq_reported_of_bound? {e : Event ω} {x : Session} (h : e.bound? = some x) :
    ∃ ticket op, e = .reported ticket op (.bound x) := by
  cases e with
  | reported ticket op n =>
    cases n with
    | bound y =>
      obtain rfl : y = x := Option.some.inj h
      exact ⟨ticket, op, rfl⟩
    | changed | delivered | dropped | ended => cases h
  | submitted | withdrawal | paused | answered | abandoned => cases h

namespace System

variable {σ τ : System ω}

/-- The queue of a stopped registry is empty. -/
def Quiet (σ : System ω) : Prop :=
  σ.registry.stopped = true → ∀ id, queuedIn σ.registry.pending id = 0

theorem Quiet.of_moved (h : Moved s σ τ) (hσ : σ.Quiet) : τ.Quiet := by
  -- a section of a stopped registry adds nothing to the queue, and the one that stops it empties it
  have hsection : ∀ {r' : Registry ω} {freed : Option ProxyId} {news : List News}
      {callers : Callers}, Section s callers σ.registry freed r' news → r'.stopped = true →
      ∀ id, queuedIn r'.pending id = 0 := by
    intro r' freed news callers hturn hstopped id
    rcases hturn.stopped_or hstopped with hbefore | hnil
    · have hbalance := hturn.balance id
      have hnone := hσ hbefore id
      omega
    · rw [hnil, queuedIn_nil]
  intro hstopped id
  cases h with
  | still hregistry =>
    rw [hregistry] at hstopped ⊢
    exact hσ hstopped id
  | refused _ hregistry =>
    rw [hregistry] at hstopped ⊢
    exact hσ hstopped id
  | admitted _ hrunning hregistry =>
    rw [hregistry] at hstopped
    exact absurd (hrunning.symm.trans hstopped) (by simp)
  | withdrawn other _ hregistry =>
    rw [hregistry] at hstopped ⊢
    rw [queuedIn_withdraw, hσ hstopped id, ite_self]
  | activated key externalKey hregistry =>
    rcases activate_cases σ.registry key externalKey with h | ⟨x, _, h⟩ <;>
      rw [hregistry, h] at hstopped ⊢ <;> exact hσ hstopped id
  | unprovisioned other hregistry =>
    rw [hregistry] at hstopped ⊢
    rw [provisioningFailed, queuedIn_map fun p => by split <;> rfl]
    exact hσ hstopped id
  | begun _ op callers turn hturn hregistry =>
    subst hturn
    rw [hregistry] at hstopped ⊢
    exact hsection (start_section ..) hstopped id
  | resumed c _ prepared turn hturn hregistry =>
    subst hturn
    rw [hregistry] at hstopped ⊢
    exact hsection (resume_section s everybody ..) hstopped id
  | abandoned _ _ hregistry =>
    rw [hregistry] at hstopped ⊢
    exact hσ hstopped id

/-- Nothing is bound for a request whose handle has been dropped. -/
theorem Moved.bound_held (h : Moved s σ τ) {x : Session} (hx : x ∈ τ.created) :
    x ∈ σ.created ∨ isHeld σ.mailboxes x.requestId = true := by
  cases h.outline with
  | quiet events hhistory hevents => exact .inl (created_of_quiet hhistory hevents ▸ hx)
  | begun _ op callers _ _ hhistory hcallers =>
    rw [created_append hhistory, filterMap_bound?_events] at hx
    exact (List.mem_append.1 hx).imp_right fun hx =>
      hcallers _ ((start_section callers ..).bound_present (mem_filterMap_bound?.1 hx))
  | resumed c _ prepared _ _ hhistory =>
    rw [created_append hhistory, filterMap_bound?_events] at hx
    refine .inl ((List.mem_append.1 hx).resolve_right fun hx => ?_)
    exact not_mem_resume_bound σ.registry σ.memory prepared c.call x
      (mem_filterMap_bound?.1 hx)

/-- After the handle of a request has been dropped no session is created for the request. -/
theorem created_run_of_gone {id : RequestId} (hid : id ∈ σ.admitted)
    (hgone : isHeld σ.mailboxes id = false) (actions : List (Action ω))
    (hfresh : (σ.run s actions).FreshRequests) {x : Session}
    (hx : x ∈ (σ.run s actions).created) (hrequest : x.requestId = id) : x ∈ σ.created := by
  induction actions generalizing σ with
  | nil => exact hx
  | cons a actions ih =>
    have hmoved := step_moved (s := s) σ a
    obtain ⟨events, hhistory⟩ := hmoved.exists_history
    have hrest : ((step s σ a).run s actions).FreshRequests := hfresh
    have hid' : id ∈ (step s σ a).admitted := by
      rw [admitted_append hhistory]
      exact List.mem_append_left _ hid
    -- backwards: the session was there after the first step, and that step did not bind the request
    have hx := ih hid' (not_isHeld_run (s := s) hid hgone [a] hrest.of_run) hrest hx
    refine (hmoved.bound_held hx).resolve_right fun hheld => ?_
    rw [hrequest, hgone] at hheld
    cases hheld

/-! ### What holds along a run -/

/-- The invariants of requests, sessions and operations that are proved in one induction over a run.
-/
structure Lawful (σ : System ω) : Prop where
  orderly : σ.Orderly
  conserved : σ.Conserved
  numbered : σ.Numbered
  accounted : σ.Accounted
  reported : σ.Reported
  parted : σ.Parted
  owesUndelivered : σ.OwesUndelivered
  quiet : σ.Quiet

theorem Lawful.initial (memory : ω) : (System.initial memory).Lawful where
  orderly := .initial memory
  conserved := .initial memory
  numbered := .initial memory
  accounted := fun _ _ _ h => absurd h List.not_mem_nil
  reported := .initial memory
  parted := fun _ _ _ h => absurd h List.not_mem_nil
  owesUndelivered := .initial memory
  quiet := fun h => absurd h (by simp [System.initial])

theorem Lawful.step (hσ : σ.Lawful) (a : Action ω) (hrequests : (System.step s σ a).FreshRequests)
    (hkeys : (System.step s σ a).FreshKeys) : (System.step s σ a).Lawful := by
  have hmoved := step_moved (s := s) σ a
  obtain ⟨events, hhistory⟩ := hmoved.exists_history
  exact {
    orderly := hσ.orderly.of_moved hmoved hkeys
    conserved := hσ.conserved.of_moved hmoved (hrequests.of_history hhistory)
    numbered := hσ.numbered.of_moved hmoved (begun_le_step σ a)
    accounted := hσ.accounted.of_moved hmoved hσ.numbered hkeys
    reported := hσ.reported.of_moved hmoved
    parted := hσ.parted.of_moved hmoved hσ.conserved hkeys
    owesUndelivered := hσ.owesUndelivered.of_moved hmoved hσ.reported hkeys
    quiet := hσ.quiet.of_moved hmoved }

theorem lawful_run (hσ : σ.Lawful) (actions : List (Action ω))
    (hrequests : (σ.run s actions).FreshRequests) (hkeys : (σ.run s actions).FreshKeys) :
    (σ.run s actions).Lawful := by
  induction actions generalizing σ with
  | nil => exact hσ
  | cons a actions ih =>
    have hrequests' : ((System.step s σ a).run s actions).FreshRequests := hrequests
    have hkeys' : ((System.step s σ a).run s actions).FreshKeys := hkeys
    exact ih (hσ.step a hrequests'.of_run hkeys'.of_run) hrequests' hkeys'

/-- What is owed, until it is paid. -/
theorem tracked_run (hσ : σ.Lawful) (actions : List (Action ω))
    (hrequests : (σ.run s actions).FreshRequests) (hkeys : (σ.run s actions).FreshKeys)
    {ticket : Nat} {key : SessionKey} (hkey : key ∈ σ.created.map (·.key))
    (h : σ.Tracked ticket key) : (σ.run s actions).Tracked ticket key := by
  induction actions generalizing σ with
  | nil => exact h
  | cons a actions ih =>
    have hrequests' : ((System.step s σ a).run s actions).FreshRequests := hrequests
    have hkeys' : ((System.step s σ a).run s actions).FreshKeys := hkeys
    have hmoved := step_moved (s := s) σ a
    obtain ⟨events, hhistory⟩ := hmoved.exists_history
    refine ih (hσ.step a hrequests'.of_run hkeys'.of_run) hrequests' hkeys' ?_
      (h.of_moved hmoved hσ.numbered hkeys'.of_run hkey)
    rw [created_append hhistory, List.map_append]
    exact List.mem_append_left _ hkey

/-! ### What is left of a request -/

/-- Nothing is left of a request: it has no session, and none of its sessions is on a slot. -/
def NoneLeft (σ : System ω) (id : RequestId) : Prop :=
  (∀ x ∈ σ.registry.active, x.requestId ≠ id) ∧
    ∀ slot key, σ.registry.sessionIn? slot = some key →
      ∀ x ∈ σ.created, x.key = key → x.requestId ≠ id

/-- A session was handed over: it was put into the mailbox of its request. -/
def HandedOver (σ : System ω) (x : Session) : Prop :=
  ∃ ticket op, Event.reported ticket op (.delivered x) ∈ σ.history

/-- The sweep that bound a session was cut short, by a matcher or by its caller. -/
def CutShort (σ : System ω) (x : Session) : Prop :=
  ∃ ticket op, Event.reported ticket op (.bound x) ∈ σ.history ∧
    (Event.answered ticket op .broken ∈ σ.history ∨
      ∃ op' call, Event.abandoned ticket op' call ∈ σ.history)

/-- A session was reported to be over. -/
def IsOver (σ : System ω) (key : SessionKey) : Prop :=
  ∃ ticket op y, Event.reported ticket op (.ended y) ∈ σ.history ∧ y.key = key

/-- A session is over when it is no longer among the sessions. -/
theorem Lawful.isOver_iff (hσ : σ.Lawful) {x : Session} (hx : x ∈ σ.created) :
    σ.IsOver x.key ↔ x.key ∉ σ.registry.activeKeys := by
  constructor
  · rintro ⟨ticket, op, y, hy, hkey⟩
    rw [← hkey]
    exact (hσ.parted ticket op y hy).2
  · intro hover
    obtain ⟨ticket, op, y, hy, hkey⟩ := (hσ.reported.ended x hx).resolve_left hover
    exact ⟨ticket, op, y, hy, hkey⟩

/-- Nothing is left of a request when the sessions that were created for it are over. -/
theorem Lawful.noneLeft_iff_isOver (hσ : σ.Lawful) (hkeys : σ.FreshKeys) (id : RequestId) :
    σ.NoneLeft id ↔ ∀ x ∈ σ.created, x.requestId = id → σ.IsOver x.key := by
  constructor
  · rintro ⟨hnone, _⟩ x hx hrequest
    rw [hσ.isOver_iff hx]
    intro hactive
    obtain ⟨y, hy, hkey⟩ := List.mem_map.1 hactive
    obtain ⟨z, hz, hzkey, hzrequest⟩ := hσ.conserved.origin y hy
    obtain rfl := List.inj_on_of_nodup_map hkeys hz hx (hzkey.trans hkey)
    exact hnone y hy (hzrequest.symm.trans hrequest)
  · intro hover
    have hgone : ∀ x ∈ σ.created, x.requestId = id → x.key ∉ σ.registry.activeKeys :=
      fun x hx hrequest => (hσ.isOver_iff hx).1 (hover x hx hrequest)
    refine ⟨fun x hx hrequest => ?_, fun slot key hslot x hx hkey hrequest => ?_⟩
    · obtain ⟨y, hy, hkey, hyrequest⟩ := hσ.conserved.origin x hx
      exact hgone y hy (hyrequest.trans hrequest) (hkey ▸ List.mem_map_of_mem hx)
    · obtain ⟨y, hy, _, hykey⟩ := hσ.orderly.tidy.seated.owned slot key hslot
      exact hgone x hx hrequest (List.mem_map.2 ⟨y, hy, hykey.trans hkey.symm⟩)

/-- A session that was created for a request is over, once the operations that were under way are,
unless it was handed over or its sweep was cut short. -/
theorem Lawful.isOver_of_unsent (hσ : σ.Lawful) (actions : List (Action ω))
    (hrequests : (σ.run s actions).FreshRequests) (hkeys : (σ.run s actions).FreshKeys)
    (hover : ∀ c ∈ σ.calls, ∀ d ∈ (σ.run s actions).calls, d.ticket ≠ c.ticket) {x : Session}
    (hx : x ∈ σ.created) (hsent : ¬(σ.run s actions).HandedOver x)
    (hcut : ¬(σ.run s actions).CutShort x) : (σ.run s actions).IsOver x.key := by
  have hτ := lawful_run hσ actions hrequests hkeys
  obtain ⟨events, hhistory⟩ := exists_history_run (s := s) σ actions
  have hlater : ∀ e ∈ σ.history, e ∈ (σ.run s actions).history := fun e he => by
    rw [hhistory]
    exact List.mem_append_left _ he
  have hcreated : x ∈ (σ.run s actions).created := by
    rw [created_append hhistory]
    exact List.mem_append_left _ hx
  obtain ⟨e, he, hbound⟩ := List.mem_filterMap.1 hx
  obtain ⟨ticket, op, rfl⟩ := Event.eq_reported_of_bound? hbound
  -- the section that bound the session handed it over, broke off, or owed it
  rcases hσ.accounted ticket op x he with hdelivered | hbroken | htracked
  · exact absurd ⟨ticket, op, hlater _ hdelivered⟩ hsent
  · exact absurd ⟨ticket, op, hlater _ he, .inl (hlater _ hbroken)⟩ hcut
  · have hkey := List.mem_map_of_mem (f := (·.key)) hx
    rcases htracked with ⟨c, hc, hticket, howed⟩ | ⟨op', call, habandoned⟩ | hgone
    · rcases tracked_run hσ actions hrequests hkeys hkey (.inl ⟨c, hc, hticket, howed⟩)
        with ⟨d, hd, hdticket, _⟩ | habandoned | hgone
      · exact absurd (hdticket.trans hticket.symm) (hover c hc d hd)
      · exact absurd ⟨ticket, op, hlater _ he, .inr habandoned⟩ hcut
      · exact (hτ.isOver_iff hcreated).2 hgone
    · exact absurd ⟨ticket, op, hlater _ he, .inr ⟨op', call, hlater _ habandoned⟩⟩ hcut
    · obtain ⟨ticket', op', y, hy, hykey⟩ := (hσ.isOver_iff hx).2 hgone
      exact ⟨ticket', op', y, hlater _ hy, hykey⟩

/-- After a sweep the queue does not hold a request whose handle has been dropped. -/
theorem Quiet.sweep_clears (hσ : σ.Quiet) {id : RequestId}
    (hgone : isHeld σ.mailboxes id = false) (d : Departures) :
    queuedIn (System.step s σ (.begin .sweep d)).registry.pending id = 0 := by
  have hregistry : (System.step s σ (.begin .sweep d)).registry =
      (σ.registry.sweep s (d.callers σ.mailboxes) σ.memory).registry := rfl
  rw [hregistry]
  cases hstopped : σ.registry.stopped with
  | true =>
    rw [sweep_of_stopped hstopped]
    exact hσ hstopped id
  | false =>
    refine Registry.sweep_clears hstopped σ.memory ?_
    simp only [Departures.callers, hgone, Bool.false_and]

/-- A request whose handle has been dropped has left the queue once a sweep has begun. -/
theorem Lawful.exists_fate_of_sweep (hσ : σ.Lawful) {id : RequestId} (hid : id ∈ σ.admitted)
    (hgone : isHeld σ.mailboxes id = false) (d : Departures) (actions : List (Action ω))
    (hrequests : (σ.run s (.begin .sweep d :: actions)).FreshRequests)
    (hkeys : (σ.run s (.begin .sweep d :: actions)).FreshKeys) :
    ∃ f, (σ.run s (.begin .sweep d :: actions)).fates id = [f] ∧ f ≠ .queued := by
  rw [run_cons] at hrequests hkeys ⊢
  have hswept := hσ.step (.begin .sweep d) hrequests.of_run hkeys.of_run
  have hτ := lawful_run hswept actions hrequests hkeys
  obtain ⟨first, hfirst⟩ := (step_moved (s := s) σ (.begin .sweep d)).exists_history
  obtain ⟨later, hlater⟩ :=
    exists_history_run (s := s) (System.step s σ (.begin .sweep d)) actions
  have hid' : id ∈ (System.step s σ (.begin .sweep d)).admitted := by
    rw [admitted_append hfirst]
    exact List.mem_append_left _ hid
  obtain ⟨f, hf⟩ := hswept.conserved.exists_fate hrequests.of_run hid'
  have hqueued : f ≠ .queued := by
    rintro rfl
    have hqueued : .queued ∈ (System.step s σ (.begin .sweep d)).fates id := by
      rw [hf]
      exact List.mem_singleton.2 rfl
    have hpos := queuedIn_pos_of_fates hqueued
    have hnone := hσ.quiet.sweep_clears (s := s) hgone d
    omega
  exact ⟨f, hswept.conserved.fates_final hτ.conserved hrequests hlater hf hqueued, hqueued⟩

/-- The same, if anything happens between the departure and the sweep. -/
theorem Lawful.exists_fate_of_later_sweep (hσ : σ.Lawful) {id : RequestId} (hid : id ∈ σ.admitted)
    (hgone : isHeld σ.mailboxes id = false) (between after : List (Action ω)) (d : Departures)
    (hrequests : (σ.run s (between ++ .begin .sweep d :: after)).FreshRequests)
    (hkeys : (σ.run s (between ++ .begin .sweep d :: after)).FreshKeys) :
    ∃ f, (σ.run s (between ++ .begin .sweep d :: after)).fates id = [f] ∧ f ≠ .queued := by
  rw [run_append] at hrequests hkeys ⊢
  obtain ⟨events, hhistory⟩ := exists_history_run (s := s) σ between
  have hid' : id ∈ (σ.run s between).admitted := by
    rw [admitted_append hhistory]
    exact List.mem_append_left _ hid
  have hgone' := not_isHeld_run hid hgone between hrequests.of_run
  have hlawful := lawful_run hσ between hrequests.of_run hkeys.of_run
  exact hlawful.exists_fate_of_sweep hid' hgone' d after hrequests hkeys

/-- After the handle of a request has been dropped, a sweep made and what was under way is over,
nothing is left of the request when the sessions that had been handed over to it, or whose sweep was
cut short, have been ended by something else.  The request has left the queue; if it was bound, and
neither is the case, its session has been ended, and a sweep ends sessions only because their
callers are gone.  A session that was handed over no sweep ever ends. -/
theorem noneLeft_iff (memory : ω) (before between after : List (Action ω)) (d : Departures)
    {σ τ : System ω} (hσ : σ = (System.initial memory).run s before)
    (hτ : τ = σ.run s (between ++ .begin .sweep d :: after)) (hrequests : τ.FreshRequests)
    (hkeys : τ.FreshKeys) (id : RequestId) (hid : id ∈ σ.admitted)
    (hgone : isHeld σ.mailboxes id = false)
    (hover : ∀ c ∈ σ.calls, ∀ c' ∈ τ.calls, c'.ticket ≠ c.ticket) :
    (τ.NoneLeft id ↔ ∀ x ∈ τ.created, x.requestId = id → τ.HandedOver x ∨ τ.CutShort x →
        τ.IsOver x.key) ∧
      (∃ f, τ.fates id = [f] ∧ f ≠ .queued ∧
        ∀ x, f = .bound x → ¬τ.HandedOver x → ¬τ.CutShort x →
          ∃ ticket op y, Event.reported ticket op (.ended y) ∈ τ.history ∧ y.key = x.key ∧
            (op = .sweep → y.termination = some .clientGone)) ∧
      ∀ x, τ.HandedOver x → ∀ ticket y, Event.reported ticket .sweep (.ended y) ∈ τ.history →
        y.key ≠ x.key := by
  subst hτ
  have hlawful : σ.Lawful := by
    subst hσ
    exact lawful_run (.initial memory) before hrequests.of_run hkeys.of_run
  have hτ := lawful_run hlawful _ hrequests hkeys
  have hold : ∀ x ∈ (σ.run s (between ++ .begin .sweep d :: after)).created, x.requestId = id →
      x ∈ σ.created := fun x hx hrequest =>
    created_run_of_gone hid hgone _ hrequests hx hrequest
  refine ⟨?_, ?_, fun x ⟨ticket, op, hx⟩ ticket' y hy => ?_⟩
  · rw [hτ.noneLeft_iff_isOver hkeys]
    refine ⟨fun h x hx hrequest _ => h x hx hrequest, fun h x hx hrequest => ?_⟩
    -- a session that was neither handed over nor cut short is over of itself
    by_cases hsent : (σ.run s (between ++ .begin .sweep d :: after)).HandedOver x
    · exact h x hx hrequest (.inl hsent)
    by_cases hcut : (σ.run s (between ++ .begin .sweep d :: after)).CutShort x
    · exact h x hx hrequest (.inr hcut)
    exact hlawful.isOver_of_unsent _ hrequests hkeys hover (hold x hx hrequest) hsent hcut
  · obtain ⟨f, hf, hqueued⟩ :=
      hlawful.exists_fate_of_later_sweep hid hgone between after d hrequests hkeys
    -- the session of a bound request is the one that was created for it
    refine ⟨f, hf, hqueued, ?_⟩
    rintro x rfl hsent hcut
    have hmem : x ∈ (σ.run s (between ++ .begin .sweep d :: after)).created.filter
        (·.requestId = id) := by
      rw [filter_created, hf]
      exact List.mem_singleton.2 rfl
    obtain ⟨hx, hrequest⟩ := List.mem_filter.1 hmem
    obtain ⟨ticket, op, y, hy, hkey⟩ := hlawful.isOver_of_unsent _ hrequests hkeys hover
      (hold x hx (by simpa using hrequest)) hsent hcut
    refine ⟨ticket, op, y, hy, hkey, ?_⟩
    rintro rfl
    exact hτ.reported.reasons ticket y hy
  · exact ((hτ.owesUndelivered.ended ticket' y hy).2 ticket op x hx).symm

/-- The handle is dropped as the sweep is about to hand over the session. -/
def lateDeparture : List (Action Unit) :=
  [.begin (.add (judgingProxy "node:4444" (.accepted, ·))) {}, .resume 0 true, .submit default,
    .begin .sweep { late := fun id => id = ⟨⟨0⟩⟩ }]

theorem noneLeft_iff_late :
    ∃ σ τ : System Unit, σ = (System.initial ()).run countingSetting lateDeparture ∧
      τ = σ.run countingSetting [.resume 1 true, .begin .sweep {}] ∧
      τ.FreshRequests ∧ τ.FreshKeys ∧ ⟨⟨0⟩⟩ ∈ σ.admitted ∧ isHeld σ.mailboxes ⟨⟨0⟩⟩ = false ∧
      σ.calls.length = 1 ∧ (∀ c ∈ σ.calls, ∀ c' ∈ τ.calls, c'.ticket ≠ c.ticket) ∧
      τ.registry.active = [] ∧
      (τ.NoneLeft ⟨⟨0⟩⟩ ↔ ∀ x ∈ τ.created, x.requestId = ⟨⟨0⟩⟩ →
        τ.HandedOver x ∨ τ.CutShort x → τ.IsOver x.key) := by
  refine ⟨_, _, rfl, rfl, ?_⟩
  have hrequests : (((System.initial ()).run countingSetting lateDeparture).run countingSetting
      [.resume 1 true, .begin .sweep {}]).FreshRequests := by
    unfold FreshRequests
    decide +kernel
  have hkeys : (((System.initial ()).run countingSetting lateDeparture).run countingSetting
      [.resume 1 true, .begin .sweep {}]).FreshKeys := by
    unfold FreshKeys
    decide +kernel
  have hid : ⟨⟨0⟩⟩ ∈ ((System.initial ()).run countingSetting lateDeparture).admitted := by
    decide +kernel
  have hgone : isHeld ((System.initial ()).run countingSetting lateDeparture).mailboxes ⟨⟨0⟩⟩ =
      false := by
    decide +kernel
  have hover : ∀ c ∈ ((System.initial ()).run countingSetting lateDeparture).calls,
      ∀ c' ∈ (((System.initial ()).run countingSetting lateDeparture).run countingSetting
        [.resume 1 true, .begin .sweep {}]).calls, c'.ticket ≠ c.ticket := by
    decide +kernel
  exact ⟨hrequests, hkeys, hid, hgone, by decide +kernel, hover, by decide +kernel,
    (noneLeft_iff () lateDeparture [.resume 1 true] [] {} rfl rfl hrequests hkeys _ hid hgone
      hover).1⟩

/-- The handle is dropped after the session was put into its mailbox, and a sweep is made. -/
def departureRun : List (Action Unit) :=
  [.begin (.add (judgingProxy "node:4444" (.accepted, ·))) {}, .resume 0 true, .submit default,
    .begin .sweep {}, .depart ⟨⟨0⟩⟩, .begin .sweep {}]

/-- A session that lies in the mailbox as the handle is dropped stays, on its slot: nobody has
received it, nothing is under way, and the sweep after the departure has not released it. -/
theorem session_left :
    ((System.initial ()).run countingSetting departureRun).FreshRequests ∧
      ((System.initial ()).run countingSetting departureRun).FreshKeys ∧
      isHeld ((System.initial ()).run countingSetting departureRun).mailboxes ⟨⟨0⟩⟩ = false ∧
      ((System.initial ()).run countingSetting departureRun).waits ⟨⟨0⟩⟩ = .idle ∧
      ((System.initial ()).run countingSetting departureRun).calls.length = 0 ∧
      ((System.initial ()).run countingSetting departureRun).registry.active.map (·.requestId) =
        [⟨⟨0⟩⟩] ∧
      ((System.initial ()).run countingSetting departureRun).registry.sessionIn?
        ⟨"node:4444", 0⟩ = some ⟨⟨1⟩⟩ ∧
      ¬((System.initial ()).run countingSetting departureRun).NoneLeft ⟨⟨0⟩⟩ := by
  have hactive : ((System.initial ()).run countingSetting departureRun).registry.active.map
      (·.requestId) = [⟨⟨0⟩⟩] := by
    decide +kernel
  refine ⟨?_, ?_, by decide +kernel, by decide +kernel, by decide +kernel, hactive,
    by decide +kernel, fun ⟨hnone, _⟩ => ?_⟩
  · unfold FreshRequests
    decide +kernel
  · unfold FreshKeys
    decide +kernel
  · obtain ⟨x, hx, hrequest⟩ := List.mem_map.1 (hactive ▸ List.mem_singleton.2 rfl)
    exact hnone x hx hrequest

end System

end BrowserGrid.Registry
