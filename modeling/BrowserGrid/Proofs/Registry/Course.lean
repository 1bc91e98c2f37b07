import BrowserGrid.Proofs.Registry.Debts

/-!
# The course of one operation

A `View` is what can be seen of one operation: the point at which it waits, the proxies whose
teardown it has called, and what it has answered.  Only its own sections and the departure of its
caller change it (`System.step_seen`), so the course of an operation is found without looking at
what goes on beside it; the end of that course is the same for all of them
(`System.view_run_of_last`).  `System.operationStep_step` says what an action does to all the
operations, and `System.fitting_run` at which points each of them can wait.
-/

namespace BrowserGrid.Registry

variable {ω : Type} {s : Setting ω}

/-! ### The events of an operation -/

/-- The point at which an operation began to wait. -/
def Event.pause? (ticket : Nat) : Event ω → Option (Call ω)
  | .paused n _ call => if n = ticket then some call else none
  | _ => none

/-- What an operation was answered. -/
def Event.answer? (ticket : Nat) : Event ω → Option Answer
  | .answered n _ answer => if n = ticket then some answer else none
  | _ => none

/-- What can be seen of an operation. -/
structure View (ω : Type) where
  /-- The point at which it waits. -/
  call : Option (Call ω)
  /-- The proxies whose teardown it has called. -/
  torn : List (Proxy ω)
  /-- What it has answered. -/
  answers : List Answer

namespace View

/-- The view after a section. -/
def after (v : View ω) : Next ω → View ω
  | .waits call => ⟨some call, v.torn ++ call.teardowns, v.answers⟩
  | .answers answer => ⟨none, v.torn, v.answers ++ [answer]⟩

/-- The view after the caller has gone away. -/
def abandon (v : View ω) : View ω := { v with call := none }

end View

namespace System

/-- The proxies whose teardown an operation has called. -/
def tornBy (σ : System ω) (ticket : Nat) : List (Proxy ω) :=
  (σ.history.filterMap (Event.pause? ticket)).flatMap Call.teardowns

/-- What can be seen of an operation. -/
def view (σ : System ω) (ticket : Nat) : View ω where
  call := (σ.call? ticket).map (·.call)
  torn := σ.tornBy ticket
  answers := σ.history.filterMap (Event.answer? ticket)

/-! ### Events of others -/

variable {σ τ : System ω}

theorem pause?_of_ne {e : Event ω} {ticket : Nat} (h : e.ticket? ≠ some ticket) :
    e.pause? ticket = none := by
  cases e with
  | paused n op call => exact if_neg fun heq => h (congrArg some heq)
  | submitted | withdrawal | reported | answered | abandoned => rfl

theorem answer?_of_ne {e : Event ω} {ticket : Nat} (h : e.ticket? ≠ some ticket) :
    e.answer? ticket = none := by
  cases e with
  | answered n op answer => exact if_neg fun heq => h (congrArg some heq)
  | submitted | withdrawal | reported | paused | abandoned => rfl

theorem view_of_unseen {events : List (Event ω)} {ticket : Nat}
    (hhistory : τ.history = σ.history ++ events)
    (hevents : ∀ e ∈ events, e.pause? ticket = none ∧ e.answer? ticket = none)
    (hcall : τ.call? ticket = σ.call? ticket) : τ.view ticket = σ.view ticket := by
  have hpause : events.filterMap (Event.pause? ticket) = [] :=
    List.filterMap_eq_nil_iff.2 fun e he => (hevents e he).1
  have hanswer : events.filterMap (Event.answer? ticket) = [] :=
    List.filterMap_eq_nil_iff.2 fun e he => (hevents e he).2
  rw [view, view, tornBy, tornBy, hcall, hhistory, List.filterMap_append, List.filterMap_append,
    hpause, hanswer, List.append_nil, List.append_nil]

/-- Events of others are not seen. -/
theorem view_of_others {events : List (Event ω)} {ticket : Nat}
    (hhistory : τ.history = σ.history ++ events) (hevents : ∀ e ∈ events, e.ticket? ≠ some ticket)
    (hcall : τ.call? ticket = σ.call? ticket) : τ.view ticket = σ.view ticket :=
  view_of_unseen hhistory
    (fun e he => ⟨pause?_of_ne (hevents e he), answer?_of_ne (hevents e he)⟩) hcall

theorem ticket?_of_mem_events {turn : Turn ω} {ticket : Nat} {op : Operation ω} {e : Event ω}
    (h : e ∈ turn.events ticket op) : e.ticket? = some ticket := by
  rcases List.mem_append.1 h with h | h
  · obtain ⟨n, _, rfl⟩ := List.mem_map.1 h
    rfl
  · rw [List.mem_singleton.1 h]
    cases turn.next <;> rfl

/-! ### The sections of the operation itself -/

theorem filterMap_pause?_events (turn : Turn ω) (ticket : Nat) (op : Operation ω) :
    (turn.events ticket op).filterMap (Event.pause? ticket) =
      match turn.next with
      | .waits call => [call]
      | .answers _ => [] := by
  have hnews : (turn.news.map (Event.reported ticket op)).filterMap (Event.pause? ticket) = [] := by
    rw [List.filterMap_map]
    exact List.filterMap_eq_nil_iff.2 fun _ _ => rfl
  rw [Turn.events, List.filterMap_append, hnews]
  cases turn.next <;> simp [Next.event, Event.pause?]

theorem filterMap_answer?_events (turn : Turn ω) (ticket : Nat) (op : Operation ω) :
    (turn.events ticket op).filterMap (Event.answer? ticket) =
      match turn.next with
      | .waits _ => []
      | .answers answer => [answer] := by
  have hnews :
      (turn.news.map (Event.reported ticket op)).filterMap (Event.answer? ticket) = [] := by
    rw [List.filterMap_map]
    exact List.filterMap_eq_nil_iff.2 fun _ _ => rfl
  rw [Turn.events, List.filterMap_append, hnews]
  cases turn.next <;> simp [Next.event, Event.answer?]

/-- The view after a section of the operation, which was not under way any more. -/
theorem view_afterTurn (σ : System ω) (ticket : Nat) (op : Operation ω) (turn : Turn ω)
    (hcall : σ.call? ticket = none) :
    (σ.afterTurn ticket op turn).view ticket = (σ.view ticket).after turn.next := by
  have hfind : (σ.afterTurn ticket op turn).call? ticket =
      (turn.next.calls ticket op).find? (·.ticket = ticket) := by
    rw [call?, afterTurn, List.find?_append, ← call?, hcall, Option.none_or]
  rw [view, tornBy, hfind]
  show View.mk _ (((σ.history ++ turn.events ticket op).filterMap _).flatMap _)
    ((σ.history ++ turn.events ticket op).filterMap _) = _
  rw [List.filterMap_append, List.filterMap_append, filterMap_pause?_events,
    filterMap_answer?_events, List.flatMap_append]
  cases turn.next with
  | waits call => simp [Next.calls, View.after, view, tornBy]
  | answers answer => simp [Next.calls, View.after, view, tornBy]

/-! ### Operations that have not begun -/

/-- Operations have numbers that have been given, those under way and those in the history. -/
structure Dated (σ : System ω) : Prop where
  numbered : σ.Numbered
  lt : ∀ e ∈ σ.history, ∀ ticket, e.ticket? = some ticket → ticket < σ.begun

theorem Dated.initial (memory : ω) : (System.initial memory).Dated :=
  ⟨.initial memory, fun _ h => absurd h List.not_mem_nil⟩

theorem Dated.of_moved (h : Moved s σ τ) (hbegun : σ.begun ≤ τ.begun) (hσ : σ.Dated) :
    τ.Dated := by
  have hold : ∀ e ∈ σ.history, ∀ ticket, e.ticket? = some ticket → ticket < τ.begun :=
    fun e he ticket hticket => Nat.lt_of_lt_of_le (hσ.lt e he ticket hticket) hbegun
  -- new events belong to no operation, to one that begins, or to one that is under way
  have happend {events : List (Event ω)} (hhistory : τ.history = σ.history ++ events)
      (hevents : ∀ e ∈ events, ∀ ticket, e.ticket? = some ticket → ticket < τ.begun) :
      ∀ e ∈ τ.history, ∀ ticket, e.ticket? = some ticket → ticket < τ.begun := by
    intro e he
    rw [hhistory] at he
    rcases List.mem_append.1 he with he | he
    · exact hold e he
    · exact hevents e he
  refine ⟨hσ.numbered.of_moved h hbegun, ?_⟩
  cases h.involved with
  | apart h =>
    obtain ⟨events, hhistory, hevents⟩ := h.history
    refine happend hhistory fun e he other hother => ?_
    rw [hevents e he] at hother
    cases hother
  | begun ticket op callers _ _ hhistory hticket hnext =>
    refine happend hhistory fun e he other hother => ?_
    have heq : ticket = other := Option.some.inj ((ticket?_of_mem_events he).symm.trans hother)
    omega
  | resumed c hc prepared _ _ hhistory =>
    refine happend hhistory fun e he other hother => ?_
    have heq : c.ticket = other := Option.some.inj ((ticket?_of_mem_events he).symm.trans hother)
    have hlt := hσ.numbered.lt c hc
    omega
  | abandoned c hc _ _ hhistory =>
    refine happend hhistory fun e he other hother => ?_
    rw [List.mem_singleton.1 he] at hother
    have heq : c.ticket = other := Option.some.inj hother
    have hlt := hσ.numbered.lt c hc
    omega

theorem dated_run (memory : ω) (actions : List (Action ω)) :
    ((System.initial memory).run s actions).Dated :=
  run_induction (fun σ a hσ => hσ.of_moved (step_moved σ a) (begun_le_step σ a))
    (Dated.initial memory) actions

/-- Nothing can be seen of an operation that has not begun. -/
theorem Dated.view_begun (hσ : σ.Dated) : σ.view σ.begun = ⟨none, [], []⟩ := by
  have hne : ∀ e ∈ σ.history, e.ticket? ≠ some σ.begun := fun e he heq =>
    Nat.lt_irrefl _ (hσ.lt e he _ heq)
  have hcall : σ.call? σ.begun = none := by
    refine List.find?_eq_none.2 fun c hc => ?_
    have hlt := hσ.numbered.lt c hc
    simp only [decide_eq_true_eq]
    omega
  rw [view, tornBy, hcall, List.filterMap_eq_nil_iff.2 fun e he => pause?_of_ne (hne e he),
    List.filterMap_eq_nil_iff.2 fun e he => answer?_of_ne (hne e he)]
  rfl

/-- What is seen of an operation when it begins. -/
theorem Dated.view_afterBegin (hσ : σ.Dated) (op : Operation ω) (d : Departures) :
    (step s σ (.begin op d)).view σ.begun =
      (⟨none, [], []⟩ : View ω).after
        (op.start s (d.callers σ.mailboxes) σ.registry σ.memory).next := by
  have hview := hσ.view_begun
  have hcall : ({ σ with begun := σ.begun + 1 } : System ω).call? σ.begun = none := by
    have hnone := congrArg View.call hview
    exact Option.map_eq_none_iff.1 hnone
  rw [← hview]
  exact view_afterTurn { σ with begun := σ.begun + 1 } σ.begun op _ hcall

/-! ### What an action does to the operations -/

/-- A step from `σ` to `τ` that runs no section of an operation and abandons none: `calls` and
`live` stay as they are, and no event of it has a ticket. -/
structure Aside (σ τ : System ω) (a : Action ω) : Prop where
  begins : ∀ op d, a ≠ .begin op d
  resumes : ∀ ticket prepared, a = .resume ticket prepared → σ.call? ticket = none
  calls : τ.calls = σ.calls
  live : τ.registry.live = σ.registry.live
  /-- It leaves the sessions alone, unless it gives one a key of the client's protocol. -/
  active : (∀ key externalKey, a ≠ .activate key externalKey) →
    τ.registry.active = σ.registry.active
  /-- It is no matter of an operation. -/
  history : ∃ events, τ.history = σ.history ++ events ∧ ∀ e ∈ events, e.ticket? = none

/-- The step from `σ` by an action, sorted by the operation that it runs a section of or abandons,
with the system `afterBegin`, `afterTurn` or without the operation that it leads to; every other
step is `Aside`. -/
inductive OperationStep (s : Setting ω) (σ : System ω) : Action ω → System ω → Prop where
  | aside {a : Action ω} {τ : System ω} (h : Aside σ τ a) : OperationStep s σ a τ
  | began (op : Operation ω) (d : Departures) :
    OperationStep s σ (.begin op d) (σ.afterBegin s op d)
  | resumed (c : Underway ω) (hc : σ.call? c.ticket = some c) (prepared : Bool) :
    OperationStep s σ (.resume c.ticket prepared)
      ((σ.without c.ticket).afterTurn c.ticket c.operation
        (c.call.resume σ.registry σ.memory prepared))
  | abandoned (c : Underway ω) (hc : σ.call? c.ticket = some c) :
    OperationStep s σ (.abandon c.ticket) { σ.without c.ticket with
      history := σ.history ++ [.abandoned c.ticket c.operation c.call] }

theorem OperationStep.of_still {a : Action ω} (hbegins : ∀ op d, a ≠ .begin op d)
    (hresumes : ∀ ticket prepared, a = .resume ticket prepared → σ.call? ticket = none)
    (hcalls : τ.calls = σ.calls) (hlive : τ.registry.live = σ.registry.live)
    (hactive : (∀ key externalKey, a ≠ .activate key externalKey) →
      τ.registry.active = σ.registry.active)
    (hhistory : τ.history = σ.history) : OperationStep s σ a τ :=
  .aside ⟨hbegins, hresumes, hcalls, hlive, hactive, [], hhistory.trans (List.append_nil _).symm,
    fun _ h => absurd h List.not_mem_nil⟩

theorem operationStep_step (σ : System ω) (a : Action ω) : OperationStep s σ a (step s σ a) := by
  cases a with
  | submit requested =>
    have hsubmit : (σ.registry.submit s requested σ.memory).2.1.live = σ.registry.live ∧
        (σ.registry.submit s requested σ.memory).2.1.active = σ.registry.active := by
      rcases submit_cases s σ.registry requested σ.memory with ⟨_, _, h⟩ | ⟨_, _, h⟩ <;> rw [h]
      · exact ⟨rfl, rfl⟩
      · exact ⟨rfl, rfl⟩
    exact .aside ⟨by simp, by simp, rfl, hsubmit.1, fun _ => hsubmit.2, _, rfl,
      by simp [Event.ticket?]⟩
  | withdraw id =>
    exact .aside ⟨by simp, by simp, rfl, rfl, fun _ => rfl, _, rfl, by simp [Event.ticket?]⟩
  | activate key externalKey =>
    refine .of_still (by simp) (by simp) rfl ?_ (fun h => absurd rfl (h key externalKey)) rfl
    show (σ.registry.activate key externalKey).2.live = σ.registry.live
    rcases activate_cases σ.registry key externalKey with h | ⟨_, _, h⟩ <;> rw [h]
  | provisioningFailed | depart | remember =>
    exact .of_still (by simp) (by simp) rfl rfl (fun _ => rfl) rfl
  | begin op d => exact .began op d
  | resume ticket prepared =>
    rw [step, afterResume]
    cases hc : σ.call? ticket with
    | some c =>
      obtain rfl := (mem_of_call? hc).2
      exact .resumed c hc prepared
    | none =>
      refine .of_still (by simp) (fun other _ h => ?_) rfl rfl (fun _ => rfl) rfl
      obtain ⟨rfl, -⟩ := Action.resume.inj h
      exact hc
  | abandon ticket =>
    rw [step, afterAbandon]
    cases hc : σ.call? ticket with
    | some c =>
      obtain rfl := (mem_of_call? hc).2
      exact .abandoned c hc
    | none => exact .of_still (by simp) (by simp) rfl rfl (fun _ => rfl) rfl
  | wait id timeout =>
    rw [step, afterWait]
    split <;> exact .of_still (by simp) (by simp) rfl rfl (fun _ => rfl) rfl
  | receive id =>
    rw [step, afterReceive]
    split
    · split <;> exact .of_still (by simp) (by simp) rfl rfl (fun _ => rfl) rfl
    · exact .of_still (by simp) (by simp) rfl rfl (fun _ => rfl) rfl
  | expire id =>
    rw [step, afterExpire]
    split <;> exact .of_still (by simp) (by simp) rfl rfl (fun _ => rfl) rfl
  | giveUp id =>
    rw [step, afterGiveUp]
    split
    · dsimp only
      split <;>
        exact .aside ⟨by simp, by simp, rfl, rfl, fun _ => rfl, _, rfl, by simp [Event.ticket?]⟩
    · exact .of_still (by simp) (by simp) rfl rfl (fun _ => rfl) rfl

/-! ### What one step lets be seen -/

/-- The view of the operation `ticket` in `τ`, by the action that leads there from `σ`: the one in
`σ`, or the one after a section, or the one without its caller. -/
inductive Seen (σ τ : System ω) (ticket : Nat) (a : Action ω) : Prop where
  | same (hview : τ.view ticket = σ.view ticket)
    (hidle : ∀ prepared, a = .resume ticket prepared → (σ.view ticket).call = none)
  | resumed (call : Call ω) (hcall : (σ.view ticket).call = some call) (prepared : Bool)
    (ha : a = .resume ticket prepared)
    (hview : τ.view ticket =
      (σ.view ticket).after (call.resume σ.registry σ.memory prepared).next)
  | abandoned (ha : a = .abandon ticket) (hview : τ.view ticket = (σ.view ticket).abandon)

theorem Aside.seen {a : Action ω} (h : Aside σ τ a) (ticket : Nat) : Seen σ τ ticket a := by
  obtain ⟨events, hhistory, hevents⟩ := h.history
  refine .same (view_of_others hhistory (fun e he heq => ?_) (by rw [call?, h.calls, call?]))
    fun prepared ha => ?_
  · rw [hevents e he] at heq
    cases heq
  · rw [view, h.resumes ticket prepared ha]
    rfl

theorem call?_without_self (σ : System ω) (ticket : Nat) :
    (σ.without ticket).call? ticket = none := by
  refine List.find?_eq_none.2 fun c hc => ?_
  obtain ⟨_, hne⟩ := List.mem_filter.1 hc
  simpa using hne

theorem call?_without_of_ne (σ : System ω) {ticket other : Nat} (h : ticket ≠ other) :
    (σ.without other).call? ticket = σ.call? ticket := by
  rw [call?, without, List.find?_filter, call?]
  congr 1
  funext c
  by_cases hc : c.ticket = ticket
  · simp [hc, h]
  · simp [hc]

theorem call?_calls_of_ne (next : Next ω) {ticket other : Nat} (op : Operation ω)
    (h : ticket ≠ other) : (next.calls other op).find? (·.ticket = ticket) = none := by
  refine List.find?_eq_none.2 fun c hc => ?_
  rw [ticket_of_mem_calls hc]
  simpa using h.symm

theorem view_afterTurn_of_ne {σ : System ω} {ticket other : Nat} (op : Operation ω) (turn : Turn ω)
    (h : ticket ≠ other) : (σ.afterTurn other op turn).view ticket = σ.view ticket := by
  have hhistory : (σ.afterTurn other op turn).history = σ.history ++ turn.events other op := rfl
  refine view_of_others hhistory (fun e he heq => ?_) ?_
  · rw [ticket?_of_mem_events he] at heq
    exact h (Option.some.inj heq).symm
  · rw [call?, afterTurn, List.find?_append, call?_calls_of_ne turn.next op h, Option.or_none]
    rfl

theorem view_without_of_ne (σ : System ω) {ticket other : Nat} (h : ticket ≠ other) :
    (σ.without other).view ticket = σ.view ticket := by
  rw [view, call?_without_of_ne σ h]
  rfl

theorem view_without_self (σ : System ω) (ticket : Nat) :
    (σ.without ticket).view ticket = (σ.view ticket).abandon := by
  rw [view, call?_without_self]
  rfl

theorem resume_seen (ticket : Nat) {c : Underway ω} (hc : σ.call? c.ticket = some c)
    (prepared : Bool) : Seen σ ((σ.without c.ticket).afterTurn c.ticket c.operation
      (c.call.resume σ.registry σ.memory prepared)) ticket (.resume c.ticket prepared) := by
  obtain rfl | hne := eq_or_ne ticket c.ticket
  · refine .resumed c.call (by rw [view, hc]; rfl) prepared rfl ?_
    rw [view_afterTurn _ _ _ _ (call?_without_self σ c.ticket), view_without_self]
    cases (c.call.resume σ.registry σ.memory prepared).next <;> rfl
  · refine .same ?_ fun _ h => absurd (Action.resume.inj h).1.symm hne
    rw [view_afterTurn_of_ne _ _ hne, view_without_of_ne σ hne]

theorem abandon_seen (σ : System ω) (ticket : Nat) (c : Underway ω) :
    Seen σ { σ.without c.ticket with
      history := σ.history ++ [.abandoned c.ticket c.operation c.call] } ticket
      (.abandon c.ticket) := by
  -- the departure itself is not seen, only that the operation waits no more
  have hunseen : ∀ e ∈ [Event.abandoned c.ticket c.operation c.call],
      e.pause? ticket = none ∧ e.answer? ticket = none := by
    intro e he
    rw [List.mem_singleton.1 he]
    exact ⟨rfl, rfl⟩
  have hview := view_of_unseen (σ := σ.without c.ticket) (τ := { σ.without c.ticket with
    history := σ.history ++ [.abandoned c.ticket c.operation c.call] }) rfl hunseen rfl
  obtain rfl | hne := eq_or_ne ticket c.ticket
  · exact .abandoned rfl (hview.trans (view_without_self σ c.ticket))
  · exact .same (hview.trans (view_without_of_ne σ hne)) fun _ h => absurd h (by simp)

theorem step_seen {σ : System ω} {ticket : Nat} (hticket : ticket < σ.begun) (a : Action ω) :
    Seen σ (step s σ a) ticket a := by
  have hacted := operationStep_step (s := s) σ a
  generalize step s σ a = τ at hacted ⊢
  cases hacted with
  | aside h => exact h.seen ticket
  | began op d =>
    refine .same ?_ fun _ h => absurd h (by simp)
    exact view_afterTurn_of_ne (σ := { σ with begun := σ.begun + 1 }) op _ (Nat.ne_of_lt hticket)
  | resumed c hc prepared => exact resume_seen ticket hc prepared
  | abandoned c hc => exact abandon_seen σ ticket c

/-! ### What a run lets be seen -/

/-- Nothing more is seen of an operation that is over. -/
theorem view_run_of_over {σ : System ω} {ticket : Nat} (hticket : ticket < σ.begun)
    (hcall : (σ.view ticket).call = none) (later : List (Action ω)) :
    (σ.run s later).view ticket = σ.view ticket := by
  induction later generalizing σ with
  | nil => rfl
  | cons a later ih =>
    have hlt := Nat.lt_of_lt_of_le hticket (begun_le_step (s := s) σ a)
    have hview : (step s σ a).view ticket = σ.view ticket := by
      cases step_seen (s := s) hticket a with
      | same hview => exact hview
      | resumed call hcall' =>
        rw [hcall] at hcall'
        cases hcall'
      | abandoned _ hview =>
        rw [hview, View.abandon, ← hcall]
    rw [run_cons, ih hlt (by rw [hview, hcall]), hview]

theorem step_resume {c : Underway ω} {ticket : Nat} (hc : σ.call? ticket = some c)
    (prepared : Bool) : step s σ (.resume ticket prepared) =
      (σ.without ticket).afterTurn ticket c.operation
        (c.call.resume σ.registry σ.memory prepared) := by
  rw [step, afterResume, hc]

/-- Nothing goes on where nothing waits. -/
theorem step_resume_of_over {σ : System ω} {ticket : Nat} (hcall : (σ.view ticket).call = none)
    (prepared : Bool) : step s σ (.resume ticket prepared) = σ := by
  have hnone : σ.call? ticket = none := Option.map_eq_none_iff.1 hcall
  rw [step, afterResume, hnone]

theorem registry_step_resume {σ : System ω} {ticket : Nat} {call : Call ω}
    (hcall : (σ.view ticket).call = some call) (prepared : Bool) :
    (step s σ (.resume ticket prepared)).registry =
      (call.resume σ.registry σ.memory prepared).registry := by
  obtain ⟨c, hc, rfl⟩ := Option.map_eq_some_iff.1 hcall
  rw [step_resume hc]
  rfl

theorem view_step_resume {σ : System ω} {ticket : Nat} (hticket : ticket < σ.begun) {call : Call ω}
    (hcall : (σ.view ticket).call = some call) (prepared : Bool) :
    (step s σ (.resume ticket prepared)).view ticket =
      (σ.view ticket).after (call.resume σ.registry σ.memory prepared).next := by
  cases step_seen (s := s) hticket (.resume ticket prepared) with
  | same _ hidle =>
    rw [hidle prepared rfl] at hcall
    cases hcall
  | resumed call' hcall' prepared' ha hview =>
    obtain rfl := Option.some.inj (hcall'.symm.trans hcall)
    obtain ⟨-, rfl⟩ := Action.resume.inj ha
    exact hview
  | abandoned ha => cases ha

/-- An operation goes on waiting, is given up by its caller, or goes on for a first time. -/
theorem view_run_cases {σ : System ω} {ticket : Nat} (hticket : ticket < σ.begun)
    {call : Call ω} (hcall : (σ.view ticket).call = some call) (later : List (Action ω)) :
    ((σ.run s later).view ticket = σ.view ticket ∧ ∀ prepared, .resume ticket prepared ∉ later) ∨
      ((σ.run s later).view ticket = (σ.view ticket).abandon ∧ .abandon ticket ∈ later) ∨
      ∃ between prepared after, later = between ++ .resume ticket prepared :: after ∧
        (σ.run s between).view ticket = σ.view ticket := by
  induction later generalizing σ with
  | nil => exact .inl ⟨rfl, fun _ => List.not_mem_nil⟩
  | cons a later ih =>
    have hlt := Nat.lt_of_lt_of_le hticket (begun_le_step (s := s) σ a)
    rw [run_cons]
    cases step_seen (s := s) hticket a with
    | same hview hidle =>
      rw [← hview]
      rcases ih hlt (by rw [hview, hcall]) with ⟨hwaits, hresume⟩ | ⟨hgone, habandon⟩ |
        ⟨between, prepared, after, rfl, hbetween⟩
      · refine .inl ⟨hwaits, fun prepared hmem => ?_⟩
        rcases List.mem_cons.1 hmem with heq | hmem
        · rw [hidle prepared heq.symm] at hcall
          cases hcall
        · exact hresume prepared hmem
      · exact .inr (.inl ⟨hgone, List.mem_cons_of_mem _ habandon⟩)
      · exact .inr (.inr ⟨a :: between, prepared, after, rfl, hbetween⟩)
    | resumed _ _ prepared ha => exact .inr (.inr ⟨[], prepared, later, by rw [ha]; rfl, rfl⟩)
    | abandoned ha hview =>
      rw [view_run_of_over hlt (by rw [hview]; rfl)]
      exact .inr (.inl ⟨hview, List.mem_cons.2 (.inl ha.symm)⟩)

/-- An operation that has only to answer goes on waiting, is given up by its caller, or answers. -/
theorem view_run_of_last {σ : System ω} {ticket : Nat} (hticket : ticket < σ.begun)
    {call : Call ω} {answer : Answer}
    (hlast : ∀ r memory prepared, (call.resume r memory prepared).next = .answers answer)
    (hcall : (σ.view ticket).call = some call) (later : List (Action ω)) :
    ((σ.run s later).view ticket = σ.view ticket ∧ ∀ prepared, .resume ticket prepared ∉ later) ∨
      ((σ.run s later).view ticket = (σ.view ticket).abandon ∧ .abandon ticket ∈ later) ∨
      (σ.run s later).view ticket = (σ.view ticket).after (.answers answer) := by
  rcases view_run_cases (s := s) hticket hcall later with hwaits | hgone |
    ⟨between, prepared, after, rfl, hbetween⟩
  · exact .inl hwaits
  · exact .inr (.inl hgone)
  · have hlt := Nat.lt_of_lt_of_le hticket (begun_le_run (s := s) σ between)
    have hview := view_step_resume (s := s) hlt (by rw [hbetween, hcall]) prepared
    have hmore := Nat.lt_of_lt_of_le hlt
      (begun_le_step (s := s) (σ.run s between) (.resume ticket prepared))
    rw [hlast, hbetween] at hview
    rw [run_append, run_cons, view_run_of_over hmore (by rw [hview]; rfl)]
    exact .inr (.inr hview)

end System

/-! ### Where an operation can wait -/

/-- An operation can wait at a point. -/
def Call.Fits : Operation ω → Call ω → Prop
  | .add p, .clearing _ new => new = p
  | .add p, .preparing new => new = p
  | .add p, .discarding new => new = p
  | .remove _, .removing _ => True
  | .release _ _, .releasing _ _ => True
  | .forceRelease _ reason, .forcing _ reason' => reason' = reason
  | .forceRelease _ _, .releasing _ _ => True
  | .sweep, .returning _ _ => True
  | .sweep, .retiring _ _ _ => True
  | .stop, .stopping _ => True
  | _, _ => False

variable {callers : Callers} {r : Registry ω} {memory : ω}

theorem releaseTurn_fits {op : Operation ω} {key : SessionKey} {reason : Termination}
    {spent : Session → Proxy ω → Call ω} {after : Option Session → Next ω}
    (hspent : ∀ x p, (spent x p).Fits op) (hafter : ∀ x call, after x = .waits call → call.Fits op)
    {call : Call ω} (h : (releaseTurn r memory key reason spent after).next = .waits call) :
    call.Fits op := by
  rcases releaseTurn_next_cases r memory key reason spent after with ⟨x, hnext⟩ | ⟨x, p, hnext⟩
  · exact hafter x call (hnext.symm.trans h)
  · obtain rfl := Next.waits.inj (hnext.symm.trans h)
    exact hspent x p

theorem afterReturn_fits {keys : List SessionKey} {toProvision : List Request} {call : Call ω}
    (h : afterReturn keys toProvision = .waits call) : call.Fits .sweep := by
  unfold afterReturn at h
  split at h
  · cases h
  · obtain rfl := Next.waits.inj h
    exact trivial

theorem start_fits {op : Operation ω} {call : Call ω}
    (h : (op.start s callers r memory).next = .waits call) : call.Fits op := by
  have hbegins := start_begins s callers r memory op
  generalize op.start s callers r memory = turn at hbegins h
  cases hbegins with
  | refused | missing | vacant | broken | swept | halted => cases h
  | staged p =>
    obtain rfl := Next.waits.inj h
    exact rfl
  | replaced p =>
    obtain rfl := Next.waits.inj h
    split <;> exact rfl
  | removed | returning | stopped =>
    obtain rfl := Next.waits.inj h
    exact trivial
  | occupied =>
    obtain rfl := Next.waits.inj h
    exact rfl
  | released key reason =>
    refine releaseTurn_fits ?_ ?_ h
    · exact fun _ _ => trivial
    · exact fun _ _ hanswer => nomatch hanswer

theorem resume_fits {op : Operation ω} {c call : Call ω} {prepared : Bool} (hc : c.Fits op)
    (h : (c.resume r memory prepared).next = .waits call) : call.Fits op := by
  cases c with
  | clearing stale new =>
    obtain rfl := Next.waits.inj h
    cases op with
    | add => exact hc
    | remove | release | forceRelease | sweep | stop => exact hc.elim
  | preparing new =>
    unfold Call.resume at h
    dsimp only at h
    split at h
    · cases h
    · obtain rfl := Next.waits.inj h
      cases op with
      | add => exact hc
      | remove | release | forceRelease | sweep | stop => exact hc.elim
    · cases h
  | forcing key reason =>
    cases op with
    | forceRelease =>
      refine releaseTurn_fits ?_ ?_ h
      · exact fun _ _ => trivial
      · exact fun _ _ hanswer => nomatch hanswer
    | add | remove | release | sweep | stop => exact hc.elim
  | returning keys toProvision =>
    cases op with
    | sweep =>
      cases keys with
      | nil => cases h
      | cons key keys =>
        refine releaseTurn_fits ?_ ?_ h
        · exact fun _ _ => trivial
        · exact fun _ _ => afterReturn_fits
    | add | remove | release | forceRelease | stop => exact hc.elim
  | retiring spent keys toProvision =>
    cases op with
    | sweep => exact afterReturn_fits h
    | add | remove | release | forceRelease | stop => exact hc.elim
  | discarding | removing | releasing | stopping => cases h

namespace System

/-- Every operation under way waits where it can wait. -/
def Fitting (σ : System ω) : Prop := ∀ c ∈ σ.calls, c.call.Fits c.operation

theorem Fitting.of_moved {σ τ : System ω} (h : Moved s σ τ) (hσ : σ.Fitting) : τ.Fitting := by
  -- every operation under way was under way, or is one that a section leaves
  have hleft {calls : List (Underway ω)} {next : Next ω} {ticket : Nat} {op : Operation ω}
      (hcalls : τ.calls = calls ++ next.calls ticket op) (hsub : calls.Sublist σ.calls)
      (hnext : ∀ call, next = .waits call → call.Fits op) : τ.Fitting := by
    intro c hc
    rw [hcalls] at hc
    rcases List.mem_append.1 hc with hc | hc
    · exact hσ c (hsub.subset hc)
    · rw [ticket_of_mem_calls hc]
      exact hnext c.call (Next.eq_waits_of_mem hc)
  cases h.outline with
  | quiet _ _ _ _ _ hcalls => exact fun c hc => hσ c (hcalls.subset hc)
  | begun ticket op callers _ hcalls => exact hleft hcalls (.refl _) fun _ => start_fits
  | resumed c hc prepared _ hcalls =>
    exact hleft hcalls (without_sublist σ c.ticket) fun _ => resume_fits (hσ c hc)

theorem fitting_run (memory : ω) (actions : List (Action ω)) :
    ((System.initial memory).run s actions).Fitting :=
  run_induction (fun σ a hσ => hσ.of_moved (step_moved σ a))
    (fun _ h => absurd h List.not_mem_nil) actions

end System

end BrowserGrid.Registry
