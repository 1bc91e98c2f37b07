import BrowserGrid.Proofs.Registry.Run
import BrowserGrid.Proofs.Registry.Sections

/-!
# What a step of a run does

`System.Moved` lists what a step can do to the registry, the operations under way and the history.
An invariant that does not speak of mailboxes and waits is proved by cases on it
(`System.step_moved`), and a section of an operation in it is taken apart by `Section`.  What a
section reports is read off by projections of `News`.  An invariant that speaks only of operations
and proxies (`System.Involved`), or only of what is reported (`System.Outline`), has fewer cases to
distinguish.

The history only grows (`System.exists_history_run`), so what does not repeat at the end of a run
did not repeat before (`System.FreshRequests.of_run`, `System.FreshKeys.of_run`).
-/

namespace BrowserGrid.Registry

variable {ω : Type} {s : Setting ω}

/-! ### Reading what a section reports -/

@[simp] theorem filterMap_bound?_ended (xs : List Session) :
    (xs.map News.ended).filterMap News.bound? = [] := by
  rw [List.filterMap_map]
  exact List.filterMap_eq_nil_iff.2 fun _ _ => rfl

@[simp] theorem filterMap_bound?_removed (xs : List Session) :
    (xs.map News.ended ++ [News.changed]).filterMap News.bound? = [] := by
  rw [List.filterMap_append, filterMap_bound?_ended]
  rfl

@[simp] theorem filterMap_bound?_dropped (ids : List RequestId) (why : Discard) :
    (ids.map (News.dropped · why)).filterMap News.bound? = [] := by
  rw [List.filterMap_map]
  exact List.filterMap_eq_nil_iff.2 fun _ _ => rfl

@[simp] theorem filterMap_bound?_news (result : SweepResult ω) :
    result.news.filterMap News.bound? = result.bound := by
  have hbound : (result.bound.map News.bound).filterMap News.bound? = result.bound := by
    rw [List.filterMap_map]
    exact List.filterMap_some
  have hdelivered : (result.delivered.map News.delivered).filterMap News.bound? = [] := by
    rw [List.filterMap_map]
    exact List.filterMap_eq_nil_iff.2 fun _ _ => rfl
  rw [SweepResult.news, List.filterMap_append, List.filterMap_append, List.filterMap_append,
    hbound, hdelivered, filterMap_bound?_dropped, filterMap_bound?_dropped, List.append_nil,
    List.append_nil, List.append_nil]

theorem mem_filterMap_bound? {news : List News} {x : Session} :
    x ∈ news.filterMap News.bound? ↔ News.bound x ∈ news := by
  rw [List.mem_filterMap]
  constructor
  · rintro ⟨n, hn, hx⟩
    cases n with
    | bound y =>
      obtain rfl : y = x := Option.some.inj hx
      exact hn
    | changed | delivered | dropped | ended => cases hx
  · exact fun hx => ⟨_, hx, rfl⟩

theorem filterMap_bound?_events (turn : Turn ω) (ticket : Nat) (op : Operation ω) :
    (turn.events ticket op).filterMap Event.bound? = turn.news.filterMap News.bound? := by
  have hlast : (turn.next.event ticket op).bound? = none := by
    cases turn.next <;> rfl
  rw [Turn.events, List.filterMap_append, List.filterMap_cons_none hlast, List.filterMap_nil,
    List.append_nil, List.filterMap_map]
  congr 1

/-- What a section reports among the events that it adds. -/
theorem reported_mem_events {turn : Turn ω} {ticket ticket' : Nat} {op op' : Operation ω}
    {n : News} : Event.reported ticket' op' n ∈ turn.events ticket op ↔
      ticket' = ticket ∧ op' = op ∧ n ∈ turn.news := by
  rw [Turn.events, List.mem_append, List.mem_map, List.mem_singleton]
  constructor
  · rintro (⟨n', hn', heq⟩ | heq)
    · cases heq
      exact ⟨rfl, rfl, hn'⟩
    · cases hnext : turn.next <;> rw [hnext] at heq <;> cases heq
  · rintro ⟨rfl, rfl, hn⟩
    exact .inl ⟨n, hn, rfl⟩

theorem Next.eq_waits_of_mem {next : Next ω} {ticket : Nat} {op : Operation ω} {c : Underway ω}
    (h : c ∈ next.calls ticket op) : next = .waits c.call := by
  cases next with
  | waits call =>
    obtain rfl := List.mem_singleton.1 h
    rfl
  | answers => exact absurd h List.not_mem_nil

/-- The operation that an event belongs to. -/
def Event.ticket? : Event ω → Option Nat
  | .reported ticket _ _ | .paused ticket _ _ | .answered ticket _ _ | .abandoned ticket _ _ =>
    some ticket
  | .submitted _ | .withdrawal .. => none

/-! ### The keys of the sessions -/

/-- The keys of the sessions. -/
def activeKeys (r : Registry ω) : List SessionKey := r.active.map (·.key)

namespace System

/-! ### One step -/

/-- The step from `σ` to `τ`, one constructor for each way in which it changes `registry`, `calls`
and `history`. -/
inductive Moved (s : Setting ω) (σ τ : System ω) : Prop where
  /-- Nothing; only mailboxes, waits and the memory may have changed. -/
  | still (hregistry : τ.registry = σ.registry) (hcalls : τ.calls = σ.calls)
    (hhistory : τ.history = σ.history)
  /-- A session was asked for in vain. -/
  | refused (error : RegistryError) (hregistry : τ.registry = σ.registry)
    (hcalls : τ.calls = σ.calls) (hhistory : τ.history = σ.history ++ [.submitted (.error error)])
  /-- A session was asked for, and the request is queued. -/
  | admitted (requested : Capabilities) (hrunning : σ.registry.stopped = false)
    (hregistry : τ.registry = σ.registry.enqueue (nextRequest s σ.registry requested))
    (hcalls : τ.calls = σ.calls)
    (hhistory : τ.history =
      σ.history ++ [.submitted (.ok (nextRequest s σ.registry requested).id)])
  /-- A request was to be withdrawn. -/
  | withdrawn (id : RequestId) (own : Bool)
    (hregistry : τ.registry = (σ.registry.withdraw id).2) (hcalls : τ.calls = σ.calls)
    (hhistory : τ.history = σ.history ++ [.withdrawal id own (σ.registry.withdraw id).1])
  /-- A session was given a key by the client's protocol. -/
  | activated (key : SessionKey) (externalKey : String)
    (hregistry : τ.registry = (σ.registry.activate key externalKey).2)
    (hcalls : τ.calls = σ.calls) (hhistory : τ.history = σ.history)
  /-- A node was not started. -/
  | unprovisioned (id : RequestId) (hregistry : τ.registry = σ.registry.provisioningFailed id)
    (hcalls : τ.calls = σ.calls) (hhistory : τ.history = σ.history)
  /-- An operation began. -/
  | begun (ticket : Nat) (op : Operation ω) (callers : Callers) (turn : Turn ω)
    (hturn : turn = op.start s callers σ.registry σ.memory)
    (hregistry : τ.registry = turn.registry)
    (hcalls : τ.calls = σ.calls ++ turn.next.calls ticket op)
    (hhistory : τ.history = σ.history ++ turn.events ticket op)
    (hticket : ticket = σ.begun) (hbegun : τ.begun = σ.begun + 1)
    (hcallers : ∀ id, callers.present id = true → isHeld σ.mailboxes id = true)
  /-- An operation went on. -/
  | resumed (c : Underway ω) (hc : c ∈ σ.calls) (prepared : Bool) (turn : Turn ω)
    (hturn : turn = c.call.resume σ.registry σ.memory prepared)
    (hregistry : τ.registry = turn.registry)
    (hcalls : τ.calls = (σ.without c.ticket).calls ++ turn.next.calls c.ticket c.operation)
    (hhistory : τ.history = σ.history ++ turn.events c.ticket c.operation)
  /-- The caller of an operation went away. -/
  | abandoned (c : Underway ω) (hc : c ∈ σ.calls) (hregistry : τ.registry = σ.registry)
    (hcalls : τ.calls = (σ.without c.ticket).calls)
    (hhistory : τ.history = σ.history ++ [.abandoned c.ticket c.operation c.call])

theorem mem_of_call? {σ : System ω} {ticket : Nat} {c : Underway ω}
    (h : σ.call? ticket = some c) : c ∈ σ.calls ∧ c.ticket = ticket :=
  ⟨List.mem_of_find?_eq_some h, by simpa using List.find?_some h⟩

theorem afterSubmit_moved (σ : System ω) (requested : Capabilities) :
    Moved s σ (σ.afterSubmit s requested) := by
  rcases submit_cases s σ.registry requested σ.memory with ⟨error, _, h⟩ | ⟨_, hrunning, h⟩
  · refine .refused error ?_ rfl ?_ <;> rw [afterSubmit, h]
  · refine .admitted requested hrunning ?_ rfl ?_ <;> rw [afterSubmit, h]

theorem step_moved (σ : System ω) (a : Action ω) : Moved s σ (step s σ a) := by
  cases a with
  | submit requested => exact afterSubmit_moved σ requested
  | withdraw id => exact .withdrawn id false rfl rfl rfl
  | activate key externalKey => exact .activated key externalKey rfl rfl rfl
  | provisioningFailed id => exact .unprovisioned id rfl rfl rfl
  | begin op d =>
    refine .begun σ.begun op (d.callers σ.mailboxes) _ rfl rfl rfl rfl rfl rfl fun id h => ?_
    simp only [Departures.callers, Bool.and_eq_true] at h
    exact h.1
  | resume ticket prepared =>
    rw [step, afterResume]
    split
    · rename_i c hc
      obtain ⟨hmem, rfl⟩ := mem_of_call? hc
      exact .resumed c hmem prepared _ rfl rfl rfl rfl
    · exact .still rfl rfl rfl
  | abandon ticket =>
    rw [step, afterAbandon]
    split
    · rename_i c hc
      obtain ⟨hmem, rfl⟩ := mem_of_call? hc
      exact .abandoned c hmem rfl rfl rfl
    · exact .still rfl rfl rfl
  | wait id timeout =>
    rw [step, afterWait]
    split <;> exact .still rfl rfl rfl
  | receive id =>
    rw [step, afterReceive]
    split
    · split <;> exact .still rfl rfl rfl
    · exact .still rfl rfl rfl
  | expire id =>
    rw [step, afterExpire]
    split <;> exact .still rfl rfl rfl
  | giveUp id =>
    rw [step, afterGiveUp]
    split
    · dsimp only
      split <;> exact .withdrawn id true rfl rfl rfl
    · exact .still rfl rfl rfl
  | depart id => exact .still rfl rfl rfl
  | remember memory => exact .still rfl rfl rfl

/-- The numbers of operations are not used again. -/
theorem begun_le_step (σ : System ω) (a : Action ω) : σ.begun ≤ (step s σ a).begun := by
  cases a with
  | begin op d => exact Nat.le_succ _
  | resume ticket prepared =>
    rw [step, afterResume]
    split <;> exact Nat.le_refl _
  | abandon ticket =>
    rw [step, afterAbandon]
    split <;> exact Nat.le_refl _
  | wait id timeout =>
    rw [step, afterWait]
    split <;> exact Nat.le_refl _
  | receive id =>
    rw [step, afterReceive]
    split
    · split <;> exact Nat.le_refl _
    · exact Nat.le_refl _
  | expire id =>
    rw [step, afterExpire]
    split <;> exact Nat.le_refl _
  | giveUp id =>
    rw [step, afterGiveUp]
    split
    · dsimp only
      split <;> exact Nat.le_refl _
    · exact Nat.le_refl _
  | submit | withdraw | activate | provisioningFailed | depart | remember => exact Nat.le_refl _

theorem begun_le_run (σ : System ω) (actions : List (Action ω)) :
    σ.begun ≤ (σ.run s actions).begun := by
  induction actions generalizing σ with
  | nil => exact Nat.le_refl _
  | cons a actions ih => exact Nat.le_trans (begun_le_step σ a) (ih (step s σ a))

/-- A step that no operation has a part in.  The operations, the proxies and the identities that are
taken stay as they are, and so do the sessions, up to the external key of one of them. -/
structure Apart (σ τ : System ω) : Prop where
  calls : τ.calls = σ.calls
  live : τ.registry.live = σ.registry.live
  registering : τ.registry.registering = σ.registry.registering
  stopped : τ.registry.stopped = σ.registry.stopped
  active : τ.registry.active = σ.registry.active ∨ ∃ x ∈ σ.registry.active, ∃ externalKey,
    τ.registry.active =
      σ.registry.active.map fun y => if y.key = x.key then x.activate externalKey else y
  /-- What happens is that a session is asked for or a request is withdrawn. -/
  history : ∃ events, τ.history = σ.history ++ events ∧ ∀ e ∈ events, e.ticket? = none

theorem Apart.of_registry {σ τ : System ω} {events : List (Event ω)} {r : Registry ω}
    (hregistry : τ.registry = r) (hlive : r.live = σ.registry.live)
    (hregistering : r.registering = σ.registry.registering)
    (hstopped : r.stopped = σ.registry.stopped) (hactive : r.active = σ.registry.active)
    (hcalls : τ.calls = σ.calls) (hhistory : τ.history = σ.history ++ events)
    (hevents : ∀ e ∈ events, e.ticket? = none) : Apart σ τ := by
  subst hregistry
  exact ⟨hcalls, hlive, hregistering, hstopped, .inl hactive, events, hhistory, hevents⟩

/-- The step from `σ` to `τ`, sorted by the operation that begins, goes on or is abandoned in it;
every other step is `Apart`. -/
inductive Involved (s : Setting ω) (σ τ : System ω) : Prop where
  | apart (h : Apart σ τ)
  | begun (ticket : Nat) (op : Operation ω) (callers : Callers)
    (hregistry : τ.registry = (op.start s callers σ.registry σ.memory).registry)
    (hcalls : τ.calls =
      σ.calls ++ (op.start s callers σ.registry σ.memory).next.calls ticket op)
    (hhistory : τ.history =
      σ.history ++ (op.start s callers σ.registry σ.memory).events ticket op)
    (hticket : ticket = σ.begun) (hbegun : τ.begun = σ.begun + 1)
    (hcallers : ∀ id, callers.present id = true → isHeld σ.mailboxes id = true)
  | resumed (c : Underway ω) (hc : c ∈ σ.calls) (prepared : Bool)
    (hregistry : τ.registry = (c.call.resume σ.registry σ.memory prepared).registry)
    (hcalls : τ.calls = (σ.without c.ticket).calls ++
      (c.call.resume σ.registry σ.memory prepared).next.calls c.ticket c.operation)
    (hhistory : τ.history = σ.history ++
      (c.call.resume σ.registry σ.memory prepared).events c.ticket c.operation)
  | abandoned (c : Underway ω) (hc : c ∈ σ.calls) (hregistry : τ.registry = σ.registry)
    (hcalls : τ.calls = (σ.without c.ticket).calls)
    (hhistory : τ.history = σ.history ++ [.abandoned c.ticket c.operation c.call])

theorem Moved.involved {σ τ : System ω} (h : Moved s σ τ) : Involved s σ τ := by
  have hnil : ∀ e ∈ ([] : List (Event ω)), e.ticket? = none :=
    fun _ h => absurd h List.not_mem_nil
  cases h with
  | still hregistry hcalls hhistory =>
    exact .apart (.of_registry hregistry rfl rfl rfl rfl hcalls
      (hhistory.trans (List.append_nil _).symm) hnil)
  | refused error hregistry hcalls hhistory =>
    exact .apart (.of_registry hregistry rfl rfl rfl rfl hcalls hhistory (by simp [Event.ticket?]))
  | admitted requested _ hregistry hcalls hhistory =>
    exact .apart (.of_registry hregistry rfl rfl rfl rfl hcalls hhistory (by simp [Event.ticket?]))
  | withdrawn id own hregistry hcalls hhistory =>
    exact .apart (.of_registry hregistry rfl rfl rfl rfl hcalls hhistory (by simp [Event.ticket?]))
  | activated key externalKey hregistry hcalls hhistory =>
    have hhistory := hhistory.trans (List.append_nil _).symm
    rcases activate_cases σ.registry key externalKey with h | ⟨x, hx, h⟩ <;> rw [h] at hregistry
    · exact .apart (.of_registry hregistry rfl rfl rfl rfl hcalls hhistory hnil)
    · obtain ⟨hmem, rfl⟩ := session?_eq_some hx
      refine .apart ⟨hcalls, ?_, ?_, ?_, .inr ⟨x, hmem, externalKey, ?_⟩, [], hhistory, hnil⟩ <;>
        rw [hregistry]
  | unprovisioned id hregistry hcalls hhistory =>
    exact .apart (.of_registry hregistry rfl rfl rfl rfl hcalls
      (hhistory.trans (List.append_nil _).symm) hnil)
  | begun ticket op callers turn hturn hregistry hcalls hhistory hticket hbegun hcallers =>
    subst hturn
    exact .begun ticket op callers hregistry hcalls hhistory hticket hbegun hcallers
  | resumed c hc prepared turn hturn hregistry hcalls hhistory =>
    subst hturn
    exact .resumed c hc prepared hregistry hcalls hhistory
  | abandoned c hc hregistry hcalls hhistory => exact .abandoned c hc hregistry hcalls hhistory

/-- The keys of the sessions stay. -/
theorem Apart.activeKeys_eq {σ τ : System ω} (h : Apart σ τ) :
    τ.registry.activeKeys = σ.registry.activeKeys := by
  rcases h.active with hsame | ⟨x, -, externalKey, hnoted⟩
  · rw [activeKeys, hsame, activeKeys]
  · rw [activeKeys, hnoted, activeKeys, List.map_map]
    refine List.map_congr_left fun y _ => ?_
    rw [Function.comp_apply]
    split
    · rename_i heq
      exact heq.symm
    · rfl

/-- The step from `σ` to `τ`, sorted by the section of an operation that reports in it.  A `quiet`
step has no `.reported` event and leaves `activeKeys` and `stopped` as they are. -/
inductive Outline (s : Setting ω) (σ τ : System ω) : Prop where
  | quiet (events : List (Event ω)) (hhistory : τ.history = σ.history ++ events)
    (hevents : ∀ e ∈ events, ∀ ticket op n, e ≠ .reported ticket op n)
    (hactive : τ.registry.activeKeys = σ.registry.activeKeys)
    (hstopped : τ.registry.stopped = σ.registry.stopped) (hcalls : τ.calls.Sublist σ.calls)
  | begun (ticket : Nat) (op : Operation ω) (callers : Callers)
    (hregistry : τ.registry = (op.start s callers σ.registry σ.memory).registry)
    (hcalls : τ.calls =
      σ.calls ++ (op.start s callers σ.registry σ.memory).next.calls ticket op)
    (hhistory : τ.history =
      σ.history ++ (op.start s callers σ.registry σ.memory).events ticket op)
    (hcallers : ∀ id, callers.present id = true → isHeld σ.mailboxes id = true)
  | resumed (c : Underway ω) (hc : c ∈ σ.calls) (prepared : Bool)
    (hregistry : τ.registry = (c.call.resume σ.registry σ.memory prepared).registry)
    (hcalls : τ.calls = (σ.without c.ticket).calls ++
      (c.call.resume σ.registry σ.memory prepared).next.calls c.ticket c.operation)
    (hhistory : τ.history = σ.history ++
      (c.call.resume σ.registry σ.memory prepared).events c.ticket c.operation)

theorem without_sublist (σ : System ω) (ticket : Nat) : (σ.without ticket).calls.Sublist σ.calls :=
  List.filter_sublist

/-- What belongs to no operation is not reported. -/
theorem not_reported_of_ticket? {events : List (Event ω)} (h : ∀ e ∈ events, e.ticket? = none) :
    ∀ e ∈ events, ∀ ticket op n, e ≠ .reported ticket op n := by
  rintro e he ticket op n rfl
  have hnone := h _ he
  cases hnone

theorem Moved.outline {σ τ : System ω} (h : Moved s σ τ) : Outline s σ τ := by
  cases h.involved with
  | apart h =>
    obtain ⟨events, hhistory, hevents⟩ := h.history
    exact .quiet events hhistory (not_reported_of_ticket? hevents) h.activeKeys_eq h.stopped
      (by rw [h.calls])
  | begun ticket op callers hregistry hcalls hhistory _ _ hcallers =>
    exact .begun ticket op callers hregistry hcalls hhistory hcallers
  | resumed c hc prepared hregistry hcalls hhistory =>
    exact .resumed c hc prepared hregistry hcalls hhistory
  | abandoned c _ hregistry hcalls hhistory =>
    exact .quiet _ hhistory (by simp) (by rw [hregistry]) (by rw [hregistry])
      (by rw [hcalls]; exact without_sublist σ c.ticket)

/-! ### The history only grows -/

theorem Moved.exists_history {σ τ : System ω} (h : Moved s σ τ) :
    ∃ events, τ.history = σ.history ++ events := by
  cases h.involved with
  | apart h =>
    obtain ⟨events, hhistory, -⟩ := h.history
    exact ⟨events, hhistory⟩
  | begun _ _ _ _ _ hhistory => exact ⟨_, hhistory⟩
  | resumed _ _ _ _ _ hhistory => exact ⟨_, hhistory⟩
  | abandoned _ _ _ _ hhistory => exact ⟨_, hhistory⟩

theorem exists_history_run (σ : System ω) (actions : List (Action ω)) :
    ∃ events, (σ.run s actions).history = σ.history ++ events := by
  induction actions generalizing σ with
  | nil => exact ⟨[], by rw [run_nil, List.append_nil]⟩
  | cons a actions ih =>
    obtain ⟨first, hfirst⟩ := (step_moved (s := s) σ a).exists_history
    obtain ⟨later, hlater⟩ := ih (step s σ a)
    exact ⟨first ++ later, by rw [run_cons, hlater, hfirst, List.append_assoc]⟩

theorem created_append {σ τ : System ω} {events : List (Event ω)}
    (h : τ.history = σ.history ++ events) :
    τ.created = σ.created ++ events.filterMap Event.bound? := by
  rw [created, h, List.filterMap_append, created]

/-- A step that reports nothing creates no session. -/
theorem created_of_quiet {σ τ : System ω} {events : List (Event ω)}
    (hhistory : τ.history = σ.history ++ events)
    (hevents : ∀ e ∈ events, ∀ ticket op n, e ≠ .reported ticket op n) :
    τ.created = σ.created := by
  have hnone : events.filterMap Event.bound? = [] := by
    refine List.filterMap_eq_nil_iff.2 fun e he => ?_
    cases e with
    | reported ticket op n => exact absurd rfl (hevents _ he ticket op n)
    | submitted | withdrawal | paused | answered | abandoned => rfl
  rw [created_append hhistory, hnone, List.append_nil]

theorem Apart.created_eq {σ τ : System ω} (h : Apart σ τ) : τ.created = σ.created := by
  obtain ⟨events, hhistory, hevents⟩ := h.history
  exact created_of_quiet hhistory (not_reported_of_ticket? hevents)

/-- What was reported by the end of a step that reports nothing was reported before. -/
theorem reported_of_quiet {σ τ : System ω} {events : List (Event ω)}
    (hhistory : τ.history = σ.history ++ events)
    (hevents : ∀ e ∈ events, ∀ ticket op n, e ≠ .reported ticket op n) {ticket : Nat}
    {op : Operation ω} {n : News} (h : Event.reported ticket op n ∈ τ.history) :
    Event.reported ticket op n ∈ σ.history := by
  rw [hhistory] at h
  exact (List.mem_append.1 h).resolve_right fun h => hevents _ h ticket op n rfl

theorem admitted_append {σ τ : System ω} {events : List (Event ω)}
    (h : τ.history = σ.history ++ events) :
    τ.admitted = σ.admitted ++ events.filterMap Event.admitted? := by
  rw [admitted, h, List.filterMap_append, admitted]

theorem FreshRequests.of_history {σ τ : System ω} (h : τ.FreshRequests)
    {events : List (Event ω)} (hhistory : τ.history = σ.history ++ events) :
    σ.FreshRequests := by
  rw [FreshRequests, admitted_append hhistory] at h
  exact (List.nodup_append.1 h).1

theorem FreshKeys.of_history {σ τ : System ω} (h : τ.FreshKeys)
    {events : List (Event ω)} (hhistory : τ.history = σ.history ++ events) : σ.FreshKeys := by
  rw [FreshKeys, created_append hhistory, List.map_append] at h
  exact (List.nodup_append.1 h).1

theorem FreshRequests.of_run {σ : System ω} {actions : List (Action ω)}
    (h : (σ.run s actions).FreshRequests) : σ.FreshRequests := by
  obtain ⟨events, hhistory⟩ := exists_history_run (s := s) σ actions
  exact h.of_history hhistory

theorem FreshKeys.of_run {σ : System ω} {actions : List (Action ω)}
    (h : (σ.run s actions).FreshKeys) : σ.FreshKeys := by
  obtain ⟨events, hhistory⟩ := exists_history_run (s := s) σ actions
  exact h.of_history hhistory

end System

end BrowserGrid.Registry
