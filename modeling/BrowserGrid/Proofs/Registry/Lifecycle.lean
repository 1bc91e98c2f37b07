import BrowserGrid.Proofs.Registry.Course
import BrowserGrid.Proofs.Registry.Endings
import BrowserGrid.Proofs.Registry.Frame

/-!
# The life of a session

A session is bound, then perhaps active, and then gone for good.

* `System.Traced`: whatever is among the sessions, or is about to be ended by an operation under way,
  goes back to a session that was bound.
* `System.Traced.passage`: a step keeps a session, gives it a key of the client's protocol, or ends
  it; and who ends it has named it, its slot or its proxy, has bound it, or stops the registry
  (`System.Ends`).
* `System.session_lifecycle`: with that, what is seen of one key along a whole run, and what its
  release does (`Frees`).
-/

namespace BrowserGrid.Registry

variable {ω : Type} {s : Setting ω} {callers : Callers}

/-! ### The key of the client's protocol -/

theorem session?_activate (r : Registry ω) (key other : SessionKey) (externalKey : String) :
    (r.activate key externalKey).2.session? other =
      if other = key then (r.session? other).map (·.activate externalKey)
      else r.session? other := by
  cases hx : r.session? key with
  | none =>
    have hsame : (r.activate key externalKey).2 = r := by
      rw [activate, hx]
    rw [hsame]
    split
    · rename_i heq
      rw [heq, hx]
      rfl
    · rfl
  | some x =>
    obtain ⟨_, hkey⟩ := session?_eq_some hx
    have hactive : (r.activate key externalKey).2.active =
        r.active.map fun y => if y.key = key then x.activate externalKey else y := by
      rw [activate, hx]
    -- the key itself is not changed, so the same session is found
    have hsame : ((fun y : Session => decide (y.key = other)) ∘
        fun y => if y.key = key then x.activate externalKey else y) =
          fun y => decide (y.key = other) := by
      funext y
      by_cases hy : y.key = key
      · simp [hy, Session.activate, hkey]
      · simp [hy]
    rw [session?, hactive, List.find?_map, hsame]
    show (r.session? other).map _ = _
    split
    · rename_i heq
      rw [heq, hx]
      simp [hkey]
    · rename_i hne
      cases hz : r.session? other with
      | none => rfl
      | some z =>
        obtain ⟨_, rfl⟩ := session?_eq_some hz
        simp [hne]

/-! ### A section that releases a session -/

/-- What follows a section that has released a session. -/
def Released.next (out : Released ω) (spent : Session → Proxy ω → Call ω)
    (after : Option Session → Next ω) : Next ω :=
  match out.retired with
  | none => after (some out.session)
  | some p => .waits (spent out.session p)

theorem releaseTurn_of_release {r r' : Registry ω} {key : SessionKey} {reason : Termination}
    {out : Released ω} (h : r.release key reason = (some out, r')) (memory : ω)
    (spent : Session → Proxy ω → Call ω) (after : Option Session → Next ω) :
    (releaseTurn r memory key reason spent after).registry = r' ∧
      (releaseTurn r memory key reason spent after).next = out.next spent after := by
  obtain ⟨session, retired⟩ := out
  unfold releaseTurn
  rw [h]
  cases retired with
  | none => exact ⟨rfl, rfl⟩
  | some p => exact ⟨rfl, rfl⟩

/-! ### Where a session comes from -/

/-- Two views of one session, which agree in what is settled when it is bound. -/
structure Alike (x y : Session) : Prop where
  key : x.key = y.key
  slot : x.slot = y.slot
  requestId : x.requestId = y.requestId
  requested : x.requested = y.requested
  offered : x.offered = y.offered

theorem Alike.refl (x : Session) : Alike x x := ⟨rfl, rfl, rfl, rfl, rfl⟩

theorem Alike.symm {x y : Session} (h : Alike x y) : Alike y x :=
  ⟨h.key.symm, h.slot.symm, h.requestId.symm, h.requested.symm, h.offered.symm⟩

theorem Alike.trans {x y z : Session} (h : Alike x y) (h' : Alike y z) : Alike x z :=
  ⟨h.key.trans h'.key, h.slot.trans h'.slot, h.requestId.trans h'.requestId,
    h.requested.trans h'.requested, h.offered.trans h'.offered⟩

theorem Alike.finish (x : Session) (reason : Termination) : Alike (x.finish reason) x :=
  ⟨rfl, rfl, rfl, rfl, rfl⟩

theorem Alike.activate {x y : Session} (h : Alike x y) (externalKey : String) :
    Alike (x.activate externalKey) y :=
  ⟨h.key, h.slot, h.requestId, h.requested, h.offered⟩

theorem start_forcing {r : Registry ω} {memory : ω} {op : Operation ω} {key : SessionKey}
    {reason : Termination}
    (h : (op.start s callers r memory).next = .waits (.forcing key reason)) :
    ∃ slot, op = .forceRelease slot reason ∧ r.sessionIn? slot = some key := by
  have hfits := start_fits h
  have hbegins := start_begins s callers r memory op
  generalize op.start s callers r memory = turn at hbegins h
  cases hbegins with
  | occupied slot reason' hkey =>
    cases h
    exact ⟨slot, rfl, hkey⟩
  | vacant => cases h
  | refused | staged | replaced | missing | removed | released | broken | swept | returning | halted
  | stopped => exact hfits.elim

theorem resume_ne_forcing {r : Registry ω} {memory : ω} {prepared : Bool} {c : Call ω}
    {key : SessionKey} {reason : Termination} :
    (c.resume r memory prepared).next ≠ .waits (.forcing key reason) := by
  have hafter : ∀ (keys : List SessionKey) (toProvision : List Request),
      (afterReturn keys toProvision : Next ω) ≠ .waits (.forcing key reason) := by
    intro keys toProvision h
    unfold afterReturn at h
    split at h <;> cases h
  intro h
  cases c with
  | preparing new =>
    unfold Call.resume at h
    dsimp only at h
    split at h <;> cases h
  | forcing key' reason' =>
    rcases releaseTurn_next_cases r memory key' reason' .releasing
      (fun session => .answers (.released session)) with ⟨_, hnext⟩ | ⟨_, _, hnext⟩
    · cases hnext.symm.trans h
    · cases hnext.symm.trans h
  | returning keys toProvision =>
    cases keys with
    | nil => cases h
    | cons first keys =>
      rcases releaseTurn_next_cases r memory first .clientGone
        (fun _ p => .retiring p keys toProvision) (fun _ => afterReturn keys toProvision) with
        ⟨_, hnext⟩ | ⟨_, _, hnext⟩
      · exact hafter keys toProvision (hnext.symm.trans h)
      · cases hnext.symm.trans h
  | retiring spent keys toProvision => exact hafter keys toProvision h
  | clearing | discarding | removing | releasing | stopping => cases h

namespace System

variable {σ τ : System ω}

/-- A session that an operation is about to end goes back to one that was bound. -/
structure Grounded (σ : System ω) (c : Underway ω) : Prop where
  /-- The release of a slot has found a session that was bound to this slot. -/
  forcing : ∀ key reason, c.call = .forcing key reason →
    ∃ slot, c.operation = .forceRelease slot reason ∧ ∃ y ∈ σ.created, y.key = key ∧ y.slot = slot
  /-- A sweep takes back what it has bound itself. -/
  owing : ∀ key ∈ c.call.owed, c.operation = .sweep ∧
    ∃ y, .reported c.ticket .sweep (.bound y) ∈ σ.history ∧ y.key = key

/-- Whatever is visible or about to be ended goes back to a session that was bound. -/
structure Traced (σ : System ω) : Prop where
  /-- The sessions and the slots agree. -/
  orderly : σ.Orderly
  /-- A session was bound as it is, up to the key of the client's protocol. -/
  origin : ∀ x ∈ σ.registry.active, ∃ y ∈ σ.created, Alike x y
  /-- So was a session that an operation is about to end. -/
  grounded : ∀ c ∈ σ.calls, σ.Grounded c

theorem Traced.initial (memory : ω) : (System.initial memory).Traced where
  orderly := .initial memory
  origin := fun _ h => absurd h List.not_mem_nil
  grounded := fun _ h => absurd h List.not_mem_nil

theorem mem_created_append {events : List (Event ω)} (hhistory : τ.history = σ.history ++ events)
    {y : Session} (hy : y ∈ σ.created) : y ∈ τ.created := by
  rw [created_append hhistory]
  exact List.mem_append_left _ hy

theorem Grounded.later {c : Underway ω} (h : σ.Grounded c) {events : List (Event ω)}
    (hhistory : τ.history = σ.history ++ events) : τ.Grounded c where
  forcing := fun key reason hcall => by
    obtain ⟨slot, hop, y, hy, hkey⟩ := h.forcing key reason hcall
    exact ⟨slot, hop, y, mem_created_append hhistory hy, hkey⟩
  owing := fun key hkey => by
    obtain ⟨hop, y, hy, hykey⟩ := h.owing key hkey
    refine ⟨hop, y, ?_, hykey⟩
    rw [hhistory]
    exact List.mem_append_left _ hy

theorem Traced.of_quiet (hσ : σ.Traced) (horderly : τ.Orderly) {events : List (Event ω)}
    (hhistory : τ.history = σ.history ++ events) (hcalls : τ.calls.Sublist σ.calls)
    (horigin : ∀ x ∈ τ.registry.active, ∃ y ∈ σ.created, Alike x y) : τ.Traced where
  orderly := horderly
  origin := fun x hx => by
    obtain ⟨y, hy, halike⟩ := horigin x hx
    exact ⟨y, mem_created_append hhistory hy, halike⟩
  grounded := fun c hc => (hσ.grounded c (hcalls.subset hc)).later hhistory

theorem Traced.of_section (hσ : σ.Traced) (horderly : τ.Orderly) {calls : List (Underway ω)}
    {freed : Option ProxyId} {turn : Turn ω} {ticket : Nat} {op : Operation ω}
    (hsection : Section s callers σ.registry freed turn.registry turn.news)
    (hregistry : τ.registry = turn.registry) (hcalls : τ.calls = calls ++ turn.next.calls ticket op)
    (hold : calls.Sublist σ.calls) (hhistory : τ.history = σ.history ++ turn.events ticket op)
    (hnew : ∀ call, turn.next = .waits call → τ.Grounded ⟨ticket, op, call⟩) : τ.Traced where
  orderly := horderly
  origin := fun x hx => by
    rw [hregistry] at hx
    rcases hsection.origin hx with hx | hx
    · obtain ⟨y, hy, halike⟩ := hσ.origin x hx
      exact ⟨y, mem_created_append hhistory hy, halike⟩
    · refine ⟨x, ?_, .refl x⟩
      rw [created_append hhistory, filterMap_bound?_events]
      exact List.mem_append_right _ hx
  grounded := fun c hc => by
    rw [hcalls] at hc
    rcases List.mem_append.1 hc with hc | hc
    · exact (hσ.grounded c (hold.subset hc)).later hhistory
    · rw [ticket_of_mem_calls hc]
      exact hnew c.call (Next.eq_waits_of_mem hc)

/-- What a sweep owes when it begins is what it has bound. -/
theorem bound_of_start_owed {r : Registry ω} {memory : ω} {op : Operation ω} {call : Call ω}
    (h : (op.start s callers r memory).next = .waits call) {key : SessionKey}
    (hkey : key ∈ call.owed) :
    op = .sweep ∧ ∃ y, News.bound y ∈ (op.start s callers r memory).news ∧ y.key = key := by
  obtain ⟨rfl, hbroken, hkey⟩ := start_owed h hkey
  rw [sweep_undelivered s callers r memory hbroken] at hkey
  obtain ⟨y, hy, rfl⟩ := List.mem_map.1 hkey
  have hnews : (Operation.sweep.start s callers r memory).news =
      (r.sweep s callers memory).news := rfl
  refine ⟨rfl, y, ?_, rfl⟩
  rw [hnews, ← mem_filterMap_bound?, filterMap_bound?_news]
  exact List.mem_of_mem_filter hy

theorem Traced.origin_of_activate (hσ : σ.Traced) (key : SessionKey) (externalKey : String) :
    ∀ x ∈ (σ.registry.activate key externalKey).2.active, ∃ y ∈ σ.created, Alike x y := by
  rcases activate_cases σ.registry key externalKey with h | ⟨z, hz, h⟩
  · rw [h]
    exact hσ.origin
  · intro x hx
    rw [h] at hx
    obtain ⟨w, hw, rfl⟩ := List.mem_map.1 hx
    split
    · obtain ⟨y, hy, halike⟩ := hσ.origin z (session?_eq_some hz).1
      exact ⟨y, hy, halike.activate externalKey⟩
    · exact hσ.origin w hw

/-- An operation that begins to wait has found the session on its slot, or has bound it. -/
theorem Traced.grounded_of_start (hσ : σ.Traced) {op : Operation ω} {call : Call ω} {ticket : Nat}
    (hnext : (op.start s callers σ.registry σ.memory).next = .waits call)
    (hhistory : τ.history =
      σ.history ++ (op.start s callers σ.registry σ.memory).events ticket op) :
    τ.Grounded ⟨ticket, op, call⟩ where
  forcing := fun key reason hcall => by
    obtain rfl : call = .forcing key reason := hcall
    obtain ⟨slot, hop, hkey⟩ := start_forcing hnext
    obtain ⟨x, hx, rfl, rfl⟩ := hσ.orderly.tidy.seated.owned slot key hkey
    obtain ⟨y, hy, halike⟩ := hσ.origin x hx
    exact ⟨x.slot, hop, y, mem_created_append hhistory hy, halike.key.symm, halike.slot.symm⟩
  owing := fun key hkey => by
    obtain ⟨hop, y, hy, hykey⟩ := bound_of_start_owed hnext hkey
    refine ⟨hop, y, ?_, hykey⟩
    rw [hhistory]
    exact List.mem_append_right _ (reported_mem_events.2 ⟨rfl, hop.symm, hy⟩)

/-- An operation that goes on ends nothing that it was not about to end before. -/
theorem Grounded.resume {c : Underway ω} (h : σ.Grounded c) {prepared : Bool} {call : Call ω}
    (hnext : (c.call.resume σ.registry σ.memory prepared).next = .waits call) :
    σ.Grounded ⟨c.ticket, c.operation, call⟩ where
  forcing := fun key reason hcall => by
    obtain rfl : call = .forcing key reason := hcall
    exact absurd hnext resume_ne_forcing
  owing := fun key hkey => h.owing key (resume_owed_subset hnext hkey)

theorem Traced.step (hσ : σ.Traced) (a : Action ω) (hfresh : (System.step s σ a).FreshKeys) :
    (System.step s σ a).Traced := by
  have horderly := hσ.orderly.of_moved (step_moved σ a) hfresh
  have hacted := operationStep_step (s := s) σ a
  generalize hτ : System.step s σ a = τ at hacted horderly ⊢
  cases hacted with
  | aside h =>
    obtain ⟨events, hhistory, -⟩ := h.history
    refine hσ.of_quiet horderly hhistory (by rw [h.calls]) ?_
    by_cases hactivate : ∃ key externalKey, a = .activate key externalKey
    · obtain ⟨key, externalKey, rfl⟩ := hactivate
      rw [← hτ]
      exact hσ.origin_of_activate key externalKey
    · rw [h.active fun key externalKey heq => hactivate ⟨key, externalKey, heq⟩]
      exact hσ.origin
  | began op d =>
    refine hσ.of_section horderly (start_section ..) rfl rfl (.refl _) rfl fun call hnext => ?_
    exact hσ.grounded_of_start hnext rfl
  | resumed c hc prepared =>
    have hgrounded := hσ.grounded c (mem_of_call? hc).1
    refine hσ.of_section horderly (resume_section s everybody ..) rfl rfl
      (without_sublist σ c.ticket) rfl fun call hnext => ?_
    exact (hgrounded.resume hnext).later rfl
  | abandoned c hc =>
    exact hσ.of_quiet horderly rfl (without_sublist σ c.ticket) hσ.origin

theorem traced_run (hσ : σ.Traced) (actions : List (Action ω))
    (hfresh : (σ.run s actions).FreshKeys) : (σ.run s actions).Traced := by
  induction actions generalizing σ with
  | nil => exact hσ
  | cons a actions ih =>
    have hrest : ((System.step s σ a).run s actions).FreshKeys := hfresh
    exact ih (hσ.step a hrest.of_run) hrest

/-! ### One step -/

/-- An action ends a session, for a reason. -/
inductive Ends (σ : System ω) (x : Session) : Action ω → Termination → Prop where
  /-- An operation ends it when it begins. -/
  | began (op : Operation ω) (d : Departures) (reason : Termination) (h : op.Ends x reason) :
    Ends σ x (.begin op d) reason
  /-- Its slot is released by force. -/
  | forced (c : Underway ω) (hc : σ.call? c.ticket = some c) (reason : Termination)
    (hop : c.operation = .forceRelease x.slot reason) (hcall : c.call = .forcing x.key reason)
    (prepared : Bool) : Ends σ x (.resume c.ticket prepared) reason
  /-- The sweep that bound it takes it back, because its caller is gone. -/
  | returned (c : Underway ω) (hc : σ.call? c.ticket = some c) (hop : c.operation = .sweep)
    (keys : List SessionKey) (toProvision : List Request)
    (hcall : c.call = .returning (x.key :: keys) toProvision) (y : Session)
    (hbound : .reported c.ticket .sweep (.bound y) ∈ σ.history) (hy : y.key = x.key)
    (prepared : Bool) : Ends σ x (.resume c.ticket prepared) .clientGone

/-- The session of `x.key` after the step by `a`: `x` itself, `x` with an external key, or none, and
then `x` is reported as ended for a reason that `σ.Ends` it. -/
inductive Passage (s : Setting ω) (σ : System ω) (x : Session) (a : Action ω) : Prop where
  /-- It stays as it is. -/
  | kept (ha : ∀ externalKey, a ≠ .activate x.key externalKey)
    (h : (step s σ a).registry.session? x.key = some x)
  /-- It is given a key of the client's protocol. -/
  | activated (externalKey : String) (ha : a = .activate x.key externalKey)
    (h : (step s σ a).registry.session? x.key = some (x.activate externalKey))
  /-- It ends, and this is reported with the reason. -/
  | ended (reason : Termination) (hends : σ.Ends x a reason)
    (hgone : (step s σ a).registry.session? x.key = none)
    (hreported : ∃ ticket op, .reported ticket op (.ended (x.finish reason)) ∈
      (step s σ a).history)

/-- A call that ends a session when it goes on has named its slot, or has bound it. -/
theorem Traced.ends_resume (hσ : σ.Traced) (hfresh : σ.FreshKeys) {x : Session}
    (hx : x ∈ σ.registry.active) {c : Underway ω} (hc : σ.call? c.ticket = some c)
    {reason : Termination} (h : c.call.Ends x reason) (prepared : Bool) :
    σ.Ends x (.resume c.ticket prepared) reason := by
  have hgrounded := hσ.grounded c (mem_of_call? hc).1
  obtain ⟨ticket, op, call⟩ := c
  cases h with
  | forced =>
    obtain ⟨slot, hop, y, hy, hkey, rfl⟩ := hgrounded.forcing x.key reason rfl
    -- of one key only one session was ever bound, so the slot is where the session still is
    obtain ⟨z, hz, halike⟩ := hσ.origin x hx
    obtain rfl := List.inj_on_of_nodup_map hfresh hy hz (hkey.trans halike.key)
    rw [← halike.slot] at hop
    exact .forced _ hc reason hop rfl prepared
  | returned keys toProvision =>
    obtain ⟨hop, y, hy, hkey⟩ := hgrounded.owing x.key List.mem_cons_self
    exact .returned _ hc hop keys toProvision rfl y hy hkey prepared

/-- A step that is no section of an operation touches a session only to give it a key of the
client's protocol. -/
theorem Aside.session? {a : Action ω} (h : Aside σ (System.step s σ a) a) {key : SessionKey}
    (ha : ∀ externalKey, a ≠ .activate key externalKey) :
    (System.step s σ a).registry.session? key = σ.registry.session? key := by
  by_cases hactivate : ∃ other externalKey, a = .activate other externalKey
  · obtain ⟨other, externalKey, rfl⟩ := hactivate
    have hne : key ≠ other := by
      rintro rfl
      exact ha externalKey rfl
    show (σ.registry.activate other externalKey).2.session? key = _
    rw [session?_activate, if_neg hne]
  · rw [Registry.session?, h.active fun other externalKey heq => hactivate ⟨other, externalKey, heq⟩,
      Registry.session?]

theorem Traced.passage (hσ : σ.Traced) (hfresh : σ.FreshKeys) {x : Session}
    (hx : x ∈ σ.registry.active) (a : Action ω) : Passage s σ x a := by
  have hseated := hσ.orderly.tidy.seated
  have hthere := hseated.session?_of_mem hx
  by_cases hactivate : ∃ externalKey, a = .activate x.key externalKey
  · obtain ⟨externalKey, rfl⟩ := hactivate
    refine .activated externalKey rfl ?_
    show (σ.registry.activate x.key externalKey).2.session? x.key = _
    rw [session?_activate, if_pos rfl, hthere]
    rfl
  have hother : ∀ externalKey, a ≠ .activate x.key externalKey :=
    fun externalKey heq => hactivate ⟨externalKey, heq⟩
  -- what a section makes of the session
  have hsection {ends : Termination → Prop} {turn : Turn ω} {ticket : Nat} {op : Operation ω}
      (h : Outcome x ends turn.registry turn.news)
      (hregistry : (System.step s σ a).registry = turn.registry)
      (hevents : turn.events ticket op ⊆ (System.step s σ a).history)
      (hends : ∀ reason, ends reason → σ.Ends x a reason) : Passage s σ x a := by
    cases h with
    | stays h => exact .kept hother (by rw [hregistry, h])
    | ended reason hreason hgone hnews =>
      refine .ended reason (hends reason hreason) (by rw [hregistry, hgone]) ⟨ticket, op, ?_⟩
      exact hevents (reported_mem_events.2 ⟨rfl, rfl, hnews⟩)
  have hacted := operationStep_step (s := s) σ a
  generalize hτ : System.step s σ a = τ at hacted hsection
  cases hacted with
  | aside h =>
    rw [← hτ] at h
    exact .kept hother (by rw [h.session? hother, hthere])
  | began op d =>
    refine hsection (start_outcome hseated hx σ.memory op) rfl
      (List.subset_append_right σ.history _) fun reason h => ?_
    exact .began op d reason h
  | resumed c hc prepared =>
    refine hsection (resume_outcome hseated hx σ.memory prepared c.call) rfl
      (List.subset_append_right σ.history _) fun reason h => ?_
    exact hσ.ends_resume hfresh hx hc h prepared
  | abandoned c hc =>
    refine .kept hother ?_
    rw [hτ]
    exact hthere

/-- A session that appears is bound and not yet active. -/
theorem state_of_appears (a : Action ω) {key : SessionKey}
    (hnone : σ.registry.session? key = none) {x : Session}
    (hx : (System.step s σ a).registry.session? key = some x) : x.state = .bound := by
  have hover := session?_eq_none_iff.1 hnone
  obtain ⟨hmem, rfl⟩ := session?_eq_some hx
  have hsection {freed : Option ProxyId} {turn : Turn ω} {callers : Callers}
      (h : Section s callers σ.registry freed turn.registry turn.news)
      (hregistry : (System.step s σ a).registry = turn.registry) : x.state = .bound := by
    rw [hregistry] at hmem
    rcases h.origin hmem with hold | hnew
    · exact absurd (List.mem_map_of_mem hold) hover
    · exact h.bound_state (mem_filterMap_bound?.1 hnew)
  cases (step_moved (s := s) σ a).outline with
  | quiet _ _ _ hactive =>
    have hkey : x.key ∈ (System.step s σ a).registry.activeKeys := List.mem_map_of_mem hmem
    rw [hactive] at hkey
    exact absurd hkey hover
  | begun _ op callers hregistry => exact hsection (start_section ..) hregistry
  | resumed c _ prepared hregistry => exact hsection (resume_section s everybody ..) hregistry

/-! ### The stages of a session along a run -/

/-- Under which state the session of a key is seen, from one moment of a run to the next. -/
def stages (s : Setting ω) (σ : System ω) (actions : List (Action ω)) (key : SessionKey) :
    List (Option SessionState) :=
  (actions.scanl (step s) σ).map fun τ => (τ.registry.session? key).map (·.state)

theorem stages_nil (key : SessionKey) :
    stages s σ [] key = [(σ.registry.session? key).map (·.state)] := by
  rw [stages, List.scanl_nil]
  rfl

theorem stages_cons (a : Action ω) (actions : List (Action ω)) (key : SessionKey) :
    stages s σ (a :: actions) key =
      (σ.registry.session? key).map (·.state) :: stages s (System.step s σ a) actions key := by
  rw [stages, List.scanl_cons]
  rfl

theorem mem_created_keys_step (a : Action ω) {key : SessionKey}
    (hkey : key ∈ σ.created.map (·.key)) : key ∈ (System.step s σ a).created.map (·.key) := by
  obtain ⟨events, hhistory⟩ := (step_moved (s := s) σ a).exists_history
  obtain ⟨y, hy, rfl⟩ := List.mem_map.1 hkey
  exact List.mem_map_of_mem (mem_created_append hhistory hy)

/-- A key whose session is over is never seen again. -/
theorem stages_of_over (actions : List (Action ω)) (hfresh : (σ.run s actions).FreshKeys)
    {key : SessionKey} (hkey : key ∈ σ.created.map (·.key))
    (hnone : σ.registry.session? key = none) :
    stages s σ actions key = List.replicate (actions.length + 1) none := by
  induction actions generalizing σ with
  | nil => rw [stages_nil, hnone]; rfl
  | cons a actions ih =>
    have hrest : ((System.step s σ a).run s actions).FreshKeys := hfresh
    have hover := not_active_of_moved (step_moved σ a) hrest.of_run hkey
      (session?_eq_none_iff.1 hnone)
    rw [stages_cons, hnone, ih hrest (mem_created_keys_step a hkey) (session?_eq_none_iff.2 hover)]
    rfl

theorem Traced.next (hσ : σ.Traced) (hfresh : σ.FreshKeys) {key : SessionKey} {x : Session}
    (hx : σ.registry.session? key = some x) (a : Action ω) :
    (∃ y, (System.step s σ a).registry.session? key = some y ∧
      (y.state = x.state ∨ y.state = .active)) ∨
    ((System.step s σ a).registry.session? key = none ∧
      key ∈ (System.step s σ a).created.map (·.key)) := by
  obtain ⟨hmem, rfl⟩ := session?_eq_some hx
  cases hσ.passage (s := s) hfresh hmem a with
  | kept _ h => exact .inl ⟨x, h, .inl rfl⟩
  | activated externalKey _ h => exact .inl ⟨x.activate externalKey, h, .inr rfl⟩
  | ended _ _ hgone =>
    obtain ⟨y, hy, halike⟩ := hσ.origin x hmem
    refine .inr ⟨hgone, mem_created_keys_step a ?_⟩
    rw [halike.key]
    exact List.mem_map_of_mem hy

theorem Traced.stages_of_active (hσ : σ.Traced) (actions : List (Action ω))
    (hfresh : (σ.run s actions).FreshKeys) {key : SessionKey} {x : Session}
    (hx : σ.registry.session? key = some x) (hstate : x.state = .active) :
    ∃ active gone, stages s σ actions key =
      List.replicate (active + 1) (some .active) ++ List.replicate gone none := by
  induction actions generalizing σ x with
  | nil => exact ⟨0, 0, by rw [stages_nil, hx, Option.map_some, hstate]; rfl⟩
  | cons a actions ih =>
    have hrest : ((System.step s σ a).run s actions).FreshKeys := hfresh
    rw [stages_cons, hx, Option.map_some, hstate]
    rcases hσ.next hfresh.of_run hx a with ⟨y, hy, hystate⟩ | ⟨hnone, hkey⟩
    · have hactive : y.state = .active := hystate.elim (·.trans hstate) id
      obtain ⟨active, gone, heq⟩ := ih (hσ.step a hrest.of_run) hrest hy hactive
      exact ⟨active + 1, gone, by rw [heq]; rfl⟩
    · exact ⟨0, _, by rw [stages_of_over actions hrest hkey hnone]; rfl⟩

theorem Traced.stages_of_bound (hσ : σ.Traced) (actions : List (Action ω))
    (hfresh : (σ.run s actions).FreshKeys) {key : SessionKey} {x : Session}
    (hx : σ.registry.session? key = some x) (hstate : x.state = .bound) :
    ∃ bound active gone, stages s σ actions key =
      List.replicate (bound + 1) (some .bound) ++ List.replicate active (some .active) ++
        List.replicate gone none := by
  induction actions generalizing σ x with
  | nil => exact ⟨0, 0, 0, by rw [stages_nil, hx, Option.map_some, hstate]; rfl⟩
  | cons a actions ih =>
    have hrest : ((System.step s σ a).run s actions).FreshKeys := hfresh
    have hstep := hσ.step a hrest.of_run
    rw [stages_cons, hx, Option.map_some, hstate]
    rcases hσ.next hfresh.of_run hx a with ⟨y, hy, hystate | hystate⟩ | ⟨hnone, hkey⟩
    · obtain ⟨bound, active, gone, heq⟩ := ih hstep hrest hy (hystate.trans hstate)
      exact ⟨bound + 1, active, gone, by rw [heq]; rfl⟩
    · obtain ⟨active, gone, heq⟩ := hstep.stages_of_active actions hrest hy hystate
      exact ⟨0, active + 1, gone, by rw [heq]; rfl⟩
    · exact ⟨0, 0, _, by rw [stages_of_over actions hrest hkey hnone]; rfl⟩

/-- A session is not there, then bound, then active, then over. -/
theorem Traced.stages_eq (hσ : σ.Traced) (actions : List (Action ω))
    (hfresh : (σ.run s actions).FreshKeys) {key : SessionKey}
    (hnone : σ.registry.session? key = none) :
    ∃ unborn bound active gone, (0 < active → 0 < bound) ∧ stages s σ actions key =
      List.replicate unborn none ++ List.replicate bound (some .bound) ++
        List.replicate active (some .active) ++ List.replicate gone none := by
  induction actions generalizing σ with
  | nil => exact ⟨1, 0, 0, 0, id, by rw [stages_nil, hnone]; rfl⟩
  | cons a actions ih =>
    have hrest : ((System.step s σ a).run s actions).FreshKeys := hfresh
    have hstep := hσ.step a hrest.of_run
    rw [stages_cons, hnone]
    cases hnext : (System.step s σ a).registry.session? key with
    | none =>
      obtain ⟨unborn, bound, active, gone, hbound, heq⟩ := ih hstep hrest hnext
      exact ⟨unborn + 1, bound, active, gone, hbound, by rw [heq]; rfl⟩
    | some x =>
      obtain ⟨bound, active, gone, heq⟩ :=
        hstep.stages_of_bound actions hrest hnext (state_of_appears a hnone hnext)
      exact ⟨1, bound + 1, active, gone, fun _ => Nat.succ_pos bound, by rw [heq]; rfl⟩

/-! ### What a release answers -/

/-- A release is answered with its session; while the spent proxy is torn down there is no answer
yet. -/
theorem view_run_of_released {ticket : Nat} (hticket : ticket < σ.begun) {out : Released ω}
    (hview : σ.view ticket = (⟨none, [], []⟩ : View ω).after
      (out.next .releasing fun session => .answers (.released session)))
    (later : List (Action ω)) :
    ((σ.run s later).view ticket).answers = [.released (some out.session)] ∨
      ((σ.run s later).view ticket).answers = [] ∧ out.retired ≠ none ∧
        (.abandon ticket ∈ later ∨ ∀ prepared, .resume ticket prepared ∉ later) := by
  cases hretired : out.retired with
  | none =>
    rw [Released.next, hretired] at hview
    rw [view_run_of_over hticket (by rw [hview]; rfl), hview]
    exact .inl rfl
  | some p =>
    rw [Released.next, hretired] at hview
    have hwaits : σ.view ticket = ⟨some (.releasing out.session p), [p], []⟩ := hview
    have hlast : ∀ (r : Registry ω) (memory : ω) (prepared : Bool),
        ((Call.releasing out.session p).resume r memory prepared).next =
          .answers (.released (some out.session)) := fun _ _ _ => rfl
    rcases view_run_of_last (s := s) hticket hlast (by rw [hwaits]) later with
      ⟨hsame, hnever⟩ | ⟨hgone, habandon⟩ | hanswers
    · rw [hsame, hwaits]
      exact .inr ⟨rfl, nofun, .inr hnever⟩
    · rw [hgone, hwaits]
      exact .inr ⟨rfl, nofun, .inl habandon⟩
    · rw [hanswers, hwaits]
      exact .inl rfl

theorem Dated.answers_release (hσ : σ.Dated) {key : SessionKey} {reason : Termination}
    {out : Released ω} {r' : Registry ω} (h : σ.registry.release key reason = (some out, r'))
    (d : Departures) (later : List (Action ω)) (hstays : .abandon σ.begun ∉ later)
    (hresumes : ∃ prepared, .resume σ.begun prepared ∈ later) :
    (((System.step s σ (.begin (.release key reason) d)).run s later).view σ.begun).answers =
      [.released (some out.session)] := by
  have hturn := (releaseTurn_of_release h σ.memory .releasing
    fun session => .answers (.released session)).2
  have hview := (hσ.view_afterBegin (s := s) (.release key reason) d).trans
    (congrArg (View.after _) hturn)
  have hticket : σ.begun < (System.step s σ (.begin (.release key reason) d)).begun :=
    Nat.lt_succ_self _
  rcases view_run_of_released (s := s) hticket hview later with hanswers | ⟨-, -, habandon | hnever⟩
  · exact hanswers
  · exact absurd habandon hstays
  · obtain ⟨prepared, hmem⟩ := hresumes
    exact absurd hmem (hnever prepared)

/-! ### The life of a session -/

/-- A release of `key` and an activation of it in `σ` find nothing, and leave the registry as it is.
-/
structure Absent (s : Setting ω) (σ : System ω) (key : SessionKey) : Prop where
  /-- There is nothing to release, and the registry is left as it is. -/
  release : ∀ reason, σ.registry.release key reason = (none, σ.registry)
  /-- The key is unknown to an activation, and the registry is left as it is. -/
  activate : ∀ externalKey,
    σ.registry.activate key externalKey = (.error (.unknownSession key), σ.registry)
  /-- A release, also one in a task of its own, does nothing but answer that nothing was there. -/
  releases : ∀ reason d, step s σ (.begin (.release key reason) d) = { σ with
    begun := σ.begun + 1
    mailboxes := d.leave σ.mailboxes
    history := σ.history ++ [.answered σ.begun (.release key reason) (.released none)] }
  /-- An activation does nothing. -/
  activates : ∀ externalKey, step s σ (.activate key externalKey) = σ

theorem absent_of_none {key : SessionKey} (h : σ.registry.session? key = none) :
    Absent s σ key := by
  have hrelease : ∀ reason, σ.registry.release key reason = (none, σ.registry) :=
    fun reason => by rw [Registry.release, h]
  have hactivate : ∀ externalKey,
      σ.registry.activate key externalKey = (.error (.unknownSession key), σ.registry) :=
    fun externalKey => by rw [Registry.activate, h]
  refine ⟨hrelease, hactivate, fun reason d => ?_, fun externalKey => ?_⟩
  · have hturn : (Operation.release key reason).start s (d.callers σ.mailboxes) σ.registry
        σ.memory = ⟨σ.registry, σ.memory, [], .answers (.released none)⟩ := by
      rw [Operation.start, releaseTurn, hrelease]
    rw [System.step, afterBegin, hturn]
    simp [afterTurn, Next.calls, Turn.events, Next.event]
  · rw [System.step, hactivate]

/-- The session `x` of `σ` is `Alike` one in `σ.created`, every step from `σ` is a `Passage` of it,
and a release of its key `Frees` it and answers with it. -/
structure Present (s : Setting ω) (σ : System ω) (x : Session) : Prop where
  /-- It is as it was bound, up to the key of the client's protocol. -/
  origin : ∃ y ∈ σ.created, Alike x y
  /-- The next step keeps it, activates it, or ends it for a reason that has to do with it. -/
  passage : ∀ a, Passage s σ x a
  /-- A release ends it and nothing else, and answers with it. -/
  release : ∀ reason, ∃ out r', σ.registry.release x.key reason = (some out, r') ∧
    Frees σ.registry x reason out r' ∧
    ∀ d, (step s σ (.begin (.release x.key reason) d)).registry = r' ∧
      ∀ later, .abandon σ.begun ∉ later → (∃ prepared, .resume σ.begun prepared ∈ later) →
        (((step s σ (.begin (.release x.key reason) d)).run s later).view σ.begun).answers =
          [.released (some (x.finish reason))]

theorem Traced.present (hσ : σ.Traced) (hdated : σ.Dated) (hfresh : σ.FreshKeys) {x : Session}
    (hx : x ∈ σ.registry.active) : Present s σ x where
  origin := hσ.origin x hx
  passage := hσ.passage hfresh hx
  release := fun reason => by
    obtain ⟨out, r', h, hfrees⟩ := release_frees hσ.orderly.tidy.seated hx reason
    refine ⟨out, r', h, hfrees, fun d => ⟨?_, fun later hstays hresumes => ?_⟩⟩
    · exact (releaseTurn_of_release h σ.memory .releasing
        fun session => .answers (.released session)).1
    · rw [hdated.answers_release h d later hstays hresumes, hfrees.session]

/-- The list `stages` of `key` along a run, and what `Absent` or `Present` says of the key at the
end of the run. -/
structure Lifecycle (s : Setting ω) (memory : ω) (actions : List (Action ω)) (key : SessionKey) :
    Prop where
  /-- It is not there, then bound, then active, then over. -/
  stages : ∃ unborn bound active gone, (0 < active → 0 < bound) ∧
    stages s (initial memory) actions key =
      List.replicate unborn none ++ List.replicate bound (some .bound) ++
        List.replicate active (some .active) ++ List.replicate gone none
  /-- As long as it is not there, nothing can be done with it. -/
  absent : ((initial memory).run s actions).registry.session? key = none →
    Absent s ((initial memory).run s actions) key
  /-- As long as it is there, only what has to do with it can change it. -/
  present : ∀ x, ((initial memory).run s actions).registry.session? key = some x →
    x.key = key ∧ Present s ((initial memory).run s actions) x

/-- The life of every session along every run. -/
theorem session_lifecycle (memory : ω) (actions : List (Action ω))
    (hfresh : ((initial memory).run s actions).FreshKeys) (key : SessionKey) :
    Lifecycle s memory actions key where
  stages := (Traced.initial memory).stages_eq actions hfresh rfl
  absent := absent_of_none
  present := fun x hx => by
    obtain ⟨hmem, hkey⟩ := session?_eq_some hx
    have htraced := traced_run (Traced.initial memory) actions hfresh
    exact ⟨hkey, htraced.present (dated_run memory actions) hfresh hmem⟩

/-- A session on a proxy that takes one session only. -/
def briefRun : List (Action Unit) :=
  [.begin (.add { judgingProxy "node:4444" (.accepted, ·) with singleUse := true }) {},
    .resume 0 true, .submit default, .begin .sweep {}, .activate ⟨⟨1⟩⟩ "client"]

theorem session_lifecycle_brief :
    ((initial ()).run countingSetting briefRun).FreshKeys ∧
      stages countingSetting (initial ()) (briefRun ++ [.begin (.release ⟨⟨1⟩⟩ .timeout) {}])
        ⟨⟨1⟩⟩ = [none, none, none, none, some .bound, some .active, none] ∧
      Lifecycle countingSetting () briefRun ⟨⟨1⟩⟩ := by
  have hfresh : ((initial ()).run countingSetting briefRun).FreshKeys := by
    unfold FreshKeys
    decide +kernel
  exact ⟨hfresh, by decide +kernel, session_lifecycle () briefRun hfresh ⟨⟨1⟩⟩⟩

end System

end BrowserGrid.Registry
