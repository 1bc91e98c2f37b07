import BrowserGrid.Proofs.Registry.Disposal
import BrowserGrid.Proofs.Registry.Reservations
import Mathlib.Algebra.Order.Group.Multiset
import Mathlib.Data.List.Induction

/-!
# Every proxy is torn down at most once

A proxy that is passed to a registration is registered at most once, and leaves the registry in one
of two ways: some section removes it and calls its teardown, or a registration of another proxy of
its resource spares it.  A proxy that comes too late is torn down without having been registered.
`System.Ledger` says that these accounts balance along a run, so no proxy is in two of them.

* `System.ledger_run`: the accounts balance after every run.
* `System.torn_perm_finished`: every teardown that was called returns, unless its caller goes away.
* `System.teardown_balance`: how often a proxy is torn down, read off the accounts.
-/

namespace BrowserGrid.Registry

variable {ω : Type} {s : Setting ω}

/-! ### Accounts along a run -/

/-- The proxies that the teardowns of an event are called on. -/
def Event.teardowns : Event ω → List (Proxy ω)
  | .paused _ _ call => call.teardowns
  | _ => []

theorem flatMap_teardowns_events (turn : Turn ω) (ticket : Nat) (op : Operation ω) :
    (turn.events ticket op).flatMap Event.teardowns = turn.next.teardowns := by
  have hnews : (turn.news.map (Event.reported ticket op)).flatMap Event.teardowns = [] := by
    rw [List.flatMap_eq_nil_iff]
    intro e he
    obtain ⟨_, _, rfl⟩ := List.mem_map.1 he
    rfl
  rw [Turn.events, List.flatMap_append, hnews, List.nil_append, List.flatMap_singleton]
  cases turn.next <;> rfl

namespace System

variable {σ τ : System ω}

/-- The proxies whose teardown has been called, each as often as that. -/
def torn (σ : System ω) : List (Proxy ω) := σ.history.flatMap Event.teardowns

/-- The proxies that are to be registered. -/
def newcomers (σ : System ω) : List (Proxy ω) := σ.calls.filterMap (·.call.newcomer?)

theorem torn_append {events : List (Event ω)} (h : τ.history = σ.history ++ events) :
    τ.torn = σ.torn ++ events.flatMap Event.teardowns := by
  rw [torn, h, List.flatMap_append, torn]

/-- What a step adds to an account, given the operation that goes on in it. -/
def ofCall {α : Type} (f : Registry ω → Bool → Call ω → List α) (σ : System ω) :
    Action ω → List α
  | .resume ticket prepared =>
    match σ.call? ticket with
    | some c => f σ.registry prepared c.call
    | none => []
  | _ => []

/-- What a step adds to an account, given the operation that begins in it. -/
def ofOperation {α : Type} (f : Registry ω → Operation ω → List α) (σ : System ω) :
    Action ω → List α
  | .begin op _ => f σ.registry op
  | _ => []

theorem mem_ofCall_iff {α : Type} {f : Registry ω → Bool → Call ω → List α} {a : Action ω} {x : α} :
    x ∈ ofCall f σ a ↔ ∃ ticket prepared c, a = .resume ticket prepared ∧
      σ.call? ticket = some c ∧ x ∈ f σ.registry prepared c.call := by
  constructor
  · intro hx
    cases a with
    | resume ticket prepared =>
      rw [ofCall] at hx
      split at hx
      · rename_i c hc
        exact ⟨ticket, prepared, c, rfl, hc, hx⟩
      · exact absurd hx List.not_mem_nil
    | _ => exact absurd hx List.not_mem_nil
  · rintro ⟨ticket, prepared, c, rfl, hc, hx⟩
    rw [ofCall, hc]
    exact hx

theorem mem_ofOperation_iff {α : Type} {f : Registry ω → Operation ω → List α} {a : Action ω}
    {x : α} : x ∈ ofOperation f σ a ↔ ∃ op d, a = .begin op d ∧ x ∈ f σ.registry op := by
  cases a <;> simp [ofOperation]

/-- An account along a run. -/
def collect {α : Type} (s : Setting ω) (f : System ω → Action ω → List α) :
    System ω → List (Action ω) → List α
  | _, [] => []
  | σ, a :: actions => f σ a ++ collect s f (step s σ a) actions

theorem collect_append {α : Type} (f : System ω → Action ω → List α) (σ : System ω)
    (before after : List (Action ω)) :
    collect s f σ (before ++ after) = collect s f σ before ++ collect s f (σ.run s before) after := by
  induction before generalizing σ with
  | nil => rfl
  | cons a before ih => rw [List.cons_append, collect, collect, ih, List.append_assoc, run_cons]

theorem mem_collect_iff {α : Type} {f : System ω → Action ω → List α} {σ : System ω}
    {actions : List (Action ω)} {x : α} : x ∈ collect s f σ actions ↔
      ∃ before a after, actions = before ++ a :: after ∧ x ∈ f (σ.run s before) a := by
  induction actions generalizing σ with
  | nil =>
    refine iff_of_false List.not_mem_nil ?_
    rintro ⟨before, a, after, h, -⟩
    exact absurd h.symm (by simp)
  | cons a actions ih =>
    rw [collect, List.mem_append, ih]
    constructor
    · rintro (hx | ⟨before, b, after, rfl, hx⟩)
      · exact ⟨[], a, actions, rfl, hx⟩
      · exact ⟨a :: before, b, after, rfl, hx⟩
    · rintro ⟨before, b, after, h, hx⟩
      cases before with
      | nil =>
        obtain ⟨rfl, rfl⟩ := List.cons.inj h
        exact .inl hx
      | cons c before =>
        obtain ⟨rfl, rfl⟩ := List.cons.inj h
        exact .inr ⟨before, b, after, rfl, hx⟩

/-! ### The accounts balance -/

theorem filterMap_newcomer?_calls (next : Next ω) (ticket : Nat) (op : Operation ω) :
    (next.calls ticket op).filterMap (·.call.newcomer?) = next.newcomers := by
  cases next with
  | answers => rfl
  | waits call => cases h : call.newcomer? <;> simp [Next.calls, Next.newcomers, h]

/-- The account of the proxies that have been passed to registrations: `newcomers`, `registered` and
`tardy` are among `added`, and `registered` and `tardy` are divided into `σ.torn`, `spared` and the
proxies that are still registered. -/
structure Ledger (σ : System ω) (added registered tardy spared : Multiset (Proxy ω)) : Prop where
  /-- Whoever is to be registered, has been, or came too late, was passed to a registration. -/
  entered : σ.newcomers + registered + tardy ≤ added
  /-- Whoever has been registered still is, or was torn down when it was removed, or was spared;
  apart from them those were torn down that came too late. -/
  left : ∃ removed : Multiset (Proxy ω), σ.torn = removed + tardy ∧
    registered = removed + spared + σ.registry.proxies

theorem newcomers_afterTurn (σ : System ω) (ticket : Nat) (op : Operation ω) (turn : Turn ω) :
    (σ.afterTurn ticket op turn).newcomers = σ.newcomers ++ turn.next.newcomers := by
  show (σ.calls ++ turn.next.calls ticket op).filterMap _ = _
  rw [List.filterMap_append, filterMap_newcomer?_calls, newcomers]

theorem torn_afterTurn (σ : System ω) (ticket : Nat) (op : Operation ω) (turn : Turn ω) :
    (σ.afterTurn ticket op turn).torn = σ.torn ++ turn.next.teardowns := by
  have hhistory : (σ.afterTurn ticket op turn).history = σ.history ++ turn.events ticket op := rfl
  rw [torn_append hhistory, flatMap_teardowns_events]

theorem Aside.torn_eq {a : Action ω} (h : Aside σ τ a) : τ.torn = σ.torn := by
  obtain ⟨events, hhistory, hevents⟩ := h.history
  have hnone : events.flatMap Event.teardowns = [] := by
    refine List.flatMap_eq_nil_iff.2 fun e he => ?_
    have hticket := hevents e he
    cases e with
    | submitted | withdrawal => rfl
    | reported | paused | answered | abandoned => cases hticket
  rw [torn_append hhistory, hnone, List.append_nil]

theorem Aside.ofCall_eq {α : Type} {a : Action ω} (h : Aside σ τ a)
    (f : Registry ω → Bool → Call ω → List α) : ofCall f σ a = [] := by
  cases a with
  | resume ticket prepared => rw [ofCall, h.resumes ticket prepared rfl]
  | _ => rfl

/-- The operations under way are one of them and the others, also in who is to be registered. -/
theorem Numbered.newcomers_eq (hσ : σ.Numbered) {c : Underway ω} (hc : c ∈ σ.calls) :
    (σ.newcomers : Multiset (Proxy ω)) =
      c.call.newcomer?.toList + (σ.without c.ticket).newcomers := by
  have hperm := (hσ.calls_perm hc).filterMap (·.call.newcomer?)
  rw [Multiset.coe_add, newcomers, Multiset.coe_eq_coe.2 hperm, newcomers]
  cases h : c.call.newcomer? <;> simp [h]

namespace Ledger

variable {added registered tardy spared : Multiset (Proxy ω)}

theorem initial (memory : ω) : (System.initial memory).Ledger 0 0 0 0 :=
  ⟨le_refl _, 0, rfl, rfl⟩

theorem aside {a : Action ω} (hσ : σ.Ledger added registered tardy spared) (h : Aside σ τ a) :
    τ.Ledger added registered tardy spared := by
  have htorn := h.torn_eq
  have hnewcomers : τ.newcomers = σ.newcomers := by
    rw [newcomers, h.calls, newcomers]
  have hproxies : τ.registry.proxies = σ.registry.proxies := by
    rw [proxies, h.live, proxies]
  exact ⟨hnewcomers ▸ hσ.entered, htorn ▸ hproxies ▸ hσ.left⟩

/-- A section moves proxies from one account to another: `a`, `r`, `t` and `p` are those whom it
lets in, registers, turns away as too late, and spares. -/
theorem «section» (hσ : σ.Ledger added registered tardy spared) {next : Next ω}
    {others a r t p : List (Proxy ω)} (hnewcomers : τ.newcomers = others ++ next.newcomers)
    (htorn : τ.torn = σ.torn ++ next.teardowns)
    (hentered : (others : Multiset (Proxy ω)) + (next.newcomers + (r + t)) ≤ σ.newcomers + a)
    (hleft : ∃ more : List (Proxy ω), next.teardowns = more ++ t ∧
      (r ++ σ.registry.proxies).Perm (more ++ (p ++ τ.registry.proxies))) :
    τ.Ledger (added + a) (registered + r) (tardy + t) (spared + p) := by
  constructor
  · calc (τ.newcomers : Multiset (Proxy ω)) + (registered + r) + (tardy + t)
        = others + (next.newcomers + (r + t)) + (registered + tardy) := by
          rw [hnewcomers, ← Multiset.coe_add]
          ac_rfl
      _ ≤ σ.newcomers + a + (registered + tardy) := add_le_add_left hentered _
      _ = σ.newcomers + registered + tardy + a := by ac_rfl
      _ ≤ added + a := add_le_add_left hσ.entered _
  · obtain ⟨removed, hold, hregistered⟩ := hσ.left
    obtain ⟨more, hteardowns, hperm⟩ := hleft
    have hbalance : (r : Multiset (Proxy ω)) + σ.registry.proxies =
        more + (p + τ.registry.proxies) := Multiset.coe_eq_coe.2 hperm
    refine ⟨removed + more, ?_, ?_⟩
    · rw [htorn, hteardowns, ← Multiset.coe_add, ← Multiset.coe_add, hold]
      ac_rfl
    · calc registered + r
          = removed + spared + (r + σ.registry.proxies) := by
            rw [hregistered]
            ac_rfl
        _ = removed + more + (spared + p) + τ.registry.proxies := by
            rw [hbalance]
            ac_rfl

theorem began (hσ : σ.Ledger added registered tardy spared) (hhoused : Housed σ.registry)
    (op : Operation ω) (d : Departures) :
    (σ.afterBegin s op d).Ledger (added + op.added) (registered + 0) (tardy + 0)
      (spared + op.spared σ.registry) := by
  let turn := op.start s (d.callers σ.mailboxes) σ.registry σ.memory
  have hbalance : σ.registry.proxies.Perm
      (turn.next.teardowns ++ (op.spared σ.registry ++ turn.registry.proxies)) :=
    start_balance hhoused σ.memory op
  have hnew : (turn.next.newcomers : Multiset (Proxy ω)) ≤ op.added :=
    Multiset.coe_le.2 (start_newcomers ..).subperm
  refine hσ.section (r := []) (t := [])
    (newcomers_afterTurn { σ with begun := σ.begun + 1 } σ.begun op turn)
    (torn_afterTurn { σ with begun := σ.begun + 1 } σ.begun op turn) ?_
    ⟨_, (List.append_nil _).symm, hbalance⟩
  rw [Multiset.coe_nil, add_zero, add_zero]
  exact add_le_add_right hnew _

theorem resumed (s : Setting ω) (hσ : σ.Ledger added registered tardy spared)
    (hhoused : Housed σ.registry) (hreserved : σ.Reserved) (hnumbered : σ.Numbered) {c : Underway ω}
    (hc : σ.call? c.ticket = some c) (prepared : Bool) :
    ((σ.without c.ticket).afterTurn c.ticket c.operation
      (c.call.resume σ.registry σ.memory prepared)).Ledger (added + 0)
      (registered + c.call.registered σ.registry prepared)
      (tardy + c.call.tardy σ.registry prepared) (spared + 0) := by
  have hmem := (mem_of_call? hc).1
  refine hσ.section (a := []) (p := []) (newcomers_afterTurn ..) (torn_afterTurn ..) ?_ ?_
  · have hsub := resume_newcomers σ.registry σ.memory prepared c.call
    rw [hnumbered.newcomers_eq hmem, add_comm, Multiset.coe_nil, add_zero]
    exact add_le_add_left (Multiset.coe_le.2 hsub.subperm) _
  · -- a proxy that is registered had taken its identity, so nobody else has it
    refine resume_balance s hhoused σ.memory prepared c.call fun p hp hrunning => ?_
    refine hreserved.vacant.unhoused p.id ((hreserved.perm hrunning).mem_iff.2 ?_)
    exact List.mem_append_left _ (mem_identities.2 ⟨c, hmem, by rw [hp]; rfl⟩)

theorem abandoned (hσ : σ.Ledger added registered tardy spared) (c : Underway ω) :
    ({ σ.without c.ticket with
      history := σ.history ++ [.abandoned c.ticket c.operation c.call] } : System ω).Ledger
      added registered tardy spared := by
  constructor
  · have hfewer : ((σ.without c.ticket).newcomers : Multiset (Proxy ω)) ≤ σ.newcomers :=
      Multiset.coe_le.2 ((without_sublist σ c.ticket).filterMap _).subperm
    refine le_trans ?_ hσ.entered
    exact add_le_add_left (add_le_add_left hfewer _) _
  · obtain ⟨removed, hold, hleft⟩ := hσ.left
    refine ⟨removed, ?_, hleft⟩
    rw [← hold, torn_append (σ := σ) rfl]
    exact congrArg _ (List.append_nil _)

theorem step (hσ : σ.Ledger added registered tardy spared) (hguarded : σ.Guarded)
    (hreserved : σ.Reserved) (hnumbered : σ.Numbered) (a : Action ω) :
    (System.step s σ a).Ledger (added + a.added)
      (registered + ofCall Call.registered σ a) (tardy + ofCall Call.tardy σ a)
      (spared + ofOperation Operation.spared σ a) := by
  have hacted := operationStep_step (s := s) σ a
  generalize System.step s σ a = τ at hacted ⊢
  cases hacted with
  | aside h =>
    have hoperation : a.added = [] ∧ ofOperation Operation.spared σ a = [] := by
      cases a with
      | begin op d => exact absurd rfl (h.begins op d)
      | _ => exact ⟨rfl, rfl⟩
    rw [h.ofCall_eq, h.ofCall_eq, hoperation.1, hoperation.2, Multiset.coe_nil, add_zero, add_zero, add_zero,
      add_zero]
    exact hσ.aside h
  | began op d => exact hσ.began hguarded.housed op d
  | resumed c hc prepared =>
    rw [ofCall, ofCall, hc]
    exact hσ.resumed s hguarded.housed hreserved hnumbered hc prepared
  | abandoned c hc =>
    have hsame := hσ.abandoned c
    rw [← add_zero added, ← add_zero registered, ← add_zero tardy, ← add_zero spared] at hsame
    exact hsame

end Ledger

theorem ledger_run (memory : ω) (actions : List (Action ω)) :
    ((initial memory).run s actions).Ledger (actions.flatMap Action.added)
      (collect s (ofCall Call.registered) (initial memory) actions)
      (collect s (ofCall Call.tardy) (initial memory) actions)
      (collect s (ofOperation Operation.spared) (initial memory) actions) := by
  -- the accounts grow with the last step
  induction actions using List.reverseRecOn with
  | nil => exact .initial memory
  | append_singleton actions a ih =>
    have hstep := ih.step (s := s) (guarded_run memory actions) (reserved_run memory actions)
      (dated_run memory actions).numbered a
    have hlast {f : System ω → Action ω → List (Proxy ω)} :
        collect s f (initial memory) (actions ++ [a]) =
          collect s f (initial memory) actions ++ f ((initial memory).run s actions) a := by
      rw [collect_append, collect, collect, List.append_nil]
    rw [run_append, List.flatMap_append, List.flatMap_singleton, hlast, hlast, hlast]
    exact hstep

/-! ### Teardowns that have returned -/

/-- The proxies whose teardown has returned in a run, each as often as that. -/
def finished (s : Setting ω) (σ : System ω) (actions : List (Action ω)) : List (Proxy ω) :=
  collect s (ofCall fun _ _ c => c.teardowns) σ actions

/-- The proxies whose teardown is waited for. -/
def falling (σ : System ω) : List (Proxy ω) := σ.calls.flatMap (·.call.teardowns)

theorem falling_afterTurn (σ : System ω) (ticket : Nat) (op : Operation ω) (turn : Turn ω) :
    (σ.afterTurn ticket op turn).falling = σ.falling ++ turn.next.teardowns := by
  show (σ.calls ++ turn.next.calls ticket op).flatMap _ = _
  rw [List.flatMap_append, falling]
  cases turn.next with
  | waits call => simp [Next.calls, Next.teardowns]
  | answers answer => rfl

/-- A step without a departure calls teardowns, which are then waited for, or lets them return. -/
theorem torn_step_perm (hnumbered : σ.Numbered) {a : Action ω} (ha : ∀ ticket, a ≠ .abandon ticket)
    {done : List (Proxy ω)} (hσ : σ.torn.Perm (done ++ σ.falling)) :
    (step s σ a).torn.Perm
      (done ++ ofCall (fun _ _ c => c.teardowns) σ a ++ (step s σ a).falling) := by
  have hacted := operationStep_step (s := s) σ a
  generalize step s σ a = τ at hacted ⊢
  cases hacted with
  | aside h =>
    rw [h.torn_eq, falling, h.calls, h.ofCall_eq, List.append_nil]
    exact hσ
  | began op d =>
    let turn := op.start s (d.callers σ.mailboxes) σ.registry σ.memory
    have htorn : (σ.afterBegin s op d).torn = σ.torn ++ turn.next.teardowns :=
      torn_afterTurn { σ with begun := σ.begun + 1 } σ.begun op turn
    have hfalling : (σ.afterBegin s op d).falling = σ.falling ++ turn.next.teardowns :=
      falling_afterTurn { σ with begun := σ.begun + 1 } σ.begun op turn
    have hcall : ofCall (fun _ _ c => c.teardowns) σ (.begin op d) = [] := rfl
    rw [htorn, hfalling, hcall, List.append_nil, ← List.append_assoc]
    exact hσ.append_right _
  | resumed c hc prepared =>
    -- the teardowns that this operation has waited for have returned
    have hothers : σ.falling.Perm (c.call.teardowns ++ (σ.without c.ticket).falling) :=
      (hnumbered.calls_perm (mem_of_call? hc).1).flatMap_right _
    rw [torn_afterTurn, falling_afterTurn, ofCall, hc, ← List.append_assoc]
    refine List.Perm.append_right _ ?_
    rw [List.append_assoc]
    exact hσ.trans (hothers.append_left done)
  | abandoned c hc => exact absurd rfl (ha c.ticket)

/-- As long as no caller goes away, every teardown that was called has returned or is waited for. -/
theorem torn_perm_finished (memory : ω) (actions : List (Action ω))
    (hkept : ∀ ticket, .abandon ticket ∉ actions) :
    ((initial memory).run s actions).torn.Perm
      (finished s (initial memory) actions ++ ((initial memory).run s actions).falling) := by
  induction actions using List.reverseRecOn with
  | nil => exact .refl _
  | append_singleton actions a ih =>
    have hbefore := ih fun ticket h => hkept ticket (List.mem_append_left _ h)
    have hlast : ∀ ticket, a ≠ .abandon ticket := fun ticket h =>
      hkept ticket (List.mem_append_right _ (List.mem_singleton.2 h.symm))
    rw [run_append, finished, collect_append, collect, collect, List.append_nil]
    exact torn_step_perm (dated_run memory actions).numbered hlast hbefore

/-! ### Instances in the accounts -/

/-- What tells a proxy from all others, also from those of its identity. -/
structure Tag where
  id : ProxyId
  serial : Nat
  deriving DecidableEq

/-- The tag of a proxy. -/
def tag (p : Proxy ω) : Tag := ⟨p.id, p.serial⟩

variable {actions : List (Action ω)} {t : Tag}

/-- How often an instance is in an account. -/
def tally (t : Tag) (ps : Multiset (Proxy ω)) : Nat := (ps.map tag).count t

theorem tally_add (t : Tag) (ps qs : Multiset (Proxy ω)) :
    tally t (ps + qs) = tally t ps + tally t qs := by
  rw [tally, Multiset.map_add, Multiset.count_add, tally, tally]

theorem tally_coe (t : Tag) (ps : List (Proxy ω)) :
    tally t (ps : Multiset (Proxy ω)) = (ps.map tag).count t := by
  rw [tally, Multiset.map_coe, Multiset.coe_count]

theorem tally_pos_iff {ps : List (Proxy ω)} : 0 < tally t (ps : Multiset (Proxy ω)) ↔ ∃ p ∈ ps, tag p = t := by
  rw [tally, Multiset.count_pos, Multiset.mem_map]
  rfl

/-- An instance is registered. -/
def Houses (σ : System ω) (t : Tag) : Prop :=
  ∃ id p, σ.registry.live.proxy? id = some p ∧ tag p = t

/-- An instance was registered at some moment of a run. -/
def Lived (s : Setting ω) (σ : System ω) (actions : List (Action ω)) (t : Tag) : Prop :=
  ∃ before after, actions = before ++ after ∧ (σ.run s before).Houses t

/-- An instance was replaced in a run by a proxy of the resource that it stands for. -/
def Spared (s : Setting ω) (σ : System ω) (actions : List (Action ω)) (t : Tag) : Prop :=
  ∃ before after q d stale r', actions = before ++ .begin (.add q) d :: after ∧
    (σ.run s before).registry.stage q.id = (.staged (some stale), r') ∧
    keepsBacking stale.proxy q = true ∧ tag stale.proxy = t

/-- The hook of an instance succeeded in a run, and its registration found the registry stopped. -/
def Late (s : Setting ω) (σ : System ω) (actions : List (Action ω)) (t : Tag) : Prop :=
  ∃ before after ticket c p, actions = before ++ .resume ticket true :: after ∧
    (σ.run s before).call? ticket = some c ∧ c.call = .preparing p ∧
    (σ.run s before).registry.stopped = true ∧ tag p = t

theorem Guarded.houses_iff (hσ : σ.Guarded) :
    σ.Houses t ↔ 0 < tally t (σ.registry.proxies : Multiset (Proxy ω)) := by
  rw [tally_pos_iff]
  constructor
  · rintro ⟨id, p, hp, htag⟩
    refine ⟨p, (hσ.housed.mem_proxies_iff p).2 ?_, htag⟩
    rw [hσ.housed.keyed id p hp]
    exact hp
  · rintro ⟨p, hp, htag⟩
    exact ⟨p.id, p, (hσ.housed.mem_proxies_iff p).1 hp, htag⟩

theorem houses_of_registered {a : Action ω} {p : Proxy ω}
    (h : p ∈ ofCall Call.registered σ a) : (step s σ a).registry.live.proxy? p.id = some p := by
  obtain ⟨ticket, prepared, ⟨n, op, call⟩, rfl, hc, hp⟩ := mem_ofCall_iff.1 h
  obtain ⟨rfl, hlive⟩ := Call.mem_registered_iff.1 hp
  have hpromote : σ.registry.promote p prepared = (.live, (σ.registry.promote p prepared).2) := by
    rw [← hlive]
  have hregistry : (step s σ (.resume ticket prepared)).registry =
      (σ.registry.promote p prepared).2 := by
    rw [step, afterResume, hc]
    dsimp only [afterTurn, Call.resume]
    rw [hpromote]
  obtain ⟨-, heq⟩ := promote_eq hpromote
  rw [hregistry, heq]
  dsimp only
  rw [if_pos rfl, LiveProxies.proxy?_insert, if_pos rfl]
  rfl

theorem lived_iff (memory : ω) : Lived s (initial memory) actions t ↔
    0 < tally t (collect s (ofCall Call.registered) (initial memory) actions :
      Multiset (Proxy ω)) := by
  constructor
  · rintro ⟨before, after, rfl, hhoused⟩
    -- whoever is registered has been registered
    obtain ⟨removed, -, hregistered⟩ := (ledger_run (s := s) memory before).left
    have hpos := (guarded_run memory before).houses_iff.1 hhoused
    rw [collect_append, ← Multiset.coe_add, tally_add, hregistered, tally_add]
    omega
  · intro hpos
    obtain ⟨p, hp, htag⟩ := tally_pos_iff.1 hpos
    obtain ⟨before, a, after, rfl, hregistered⟩ := mem_collect_iff.1 hp
    refine ⟨before ++ [a], after, by simp, p.id, p, ?_, htag⟩
    rw [run_append]
    exact houses_of_registered hregistered

instance (memory : ω) : Decidable (Lived s (initial memory) actions t) :=
  decidable_of_iff' _ (lived_iff memory)

theorem spared_iff : Spared s σ actions t ↔
    0 < tally t (collect s (ofOperation Operation.spared) σ actions : Multiset (Proxy ω)) := by
  rw [tally_pos_iff]
  constructor
  · rintro ⟨before, after, q, d, stale, r', hactions, hstage, hkeeps, htag⟩
    refine ⟨stale.proxy, mem_collect_iff.2 ⟨before, _, after, hactions, ?_⟩, htag⟩
    exact Operation.mem_spared_iff.2 ⟨q, stale, r', rfl, hstage, hkeeps, rfl⟩
  · rintro ⟨p, hp, htag⟩
    obtain ⟨before, a, after, hactions, hp⟩ := mem_collect_iff.1 hp
    obtain ⟨op, d, rfl, hp⟩ := mem_ofOperation_iff.1 hp
    obtain ⟨q, stale, r', rfl, hstage, hkeeps, rfl⟩ := Operation.mem_spared_iff.1 hp
    exact ⟨before, after, q, d, stale, r', hactions, hstage, hkeeps, htag⟩

instance : Decidable (Spared s σ actions t) := decidable_of_iff' _ spared_iff

theorem promote_eq_late_iff {r : Registry ω} {p : Proxy ω} {prepared : Bool} :
    (r.promote p prepared).1 = .late ↔ prepared = true ∧ r.stopped = true := by
  cases prepared <;> cases hstopped : r.stopped <;> simp [promote, hstopped]

theorem late_iff : Late s σ actions t ↔
    0 < tally t (collect s (ofCall Call.tardy) σ actions : Multiset (Proxy ω)) := by
  rw [tally_pos_iff]
  constructor
  · rintro ⟨before, after, ticket, c, p, hactions, hc, hcall, hstopped, htag⟩
    refine ⟨p, mem_collect_iff.2 ⟨before, _, after, hactions, ?_⟩, htag⟩
    exact mem_ofCall_iff.2 ⟨ticket, true, c, rfl, hc,
      Call.mem_tardy_iff.2 ⟨hcall, promote_eq_late_iff.2 ⟨rfl, hstopped⟩⟩⟩
  · rintro ⟨p, hp, htag⟩
    obtain ⟨before, a, after, hactions, hp⟩ := mem_collect_iff.1 hp
    obtain ⟨ticket, prepared, c, rfl, hc, hp⟩ := mem_ofCall_iff.1 hp
    obtain ⟨hcall, hlate⟩ := Call.mem_tardy_iff.1 hp
    obtain ⟨rfl, hstopped⟩ := promote_eq_late_iff.1 hlate
    exact ⟨before, after, ticket, c, p, hactions, hc, hcall, hstopped, htag⟩

instance : Decidable (Late s σ actions t) := decidable_of_iff' _ late_iff

/-! ### How often a proxy is torn down -/

theorem Ledger.tally_of_once {added registered tardy spared : Multiset (Proxy ω)}
    (hσ : σ.Ledger added registered tardy spared) (honce : (added.map tag).Nodup)
    (t : Tag) :
    tally t registered + tally t tardy ≤ 1 ∧
      tally t spared + tally t (σ.registry.proxies : Multiset (Proxy ω)) ≤
        tally t registered ∧
      tally t (σ.torn : Multiset (Proxy ω)) + tally t spared +
          tally t (σ.registry.proxies : Multiset (Proxy ω)) =
        tally t registered + tally t tardy := by
  obtain ⟨removed, htorn, hregistered⟩ := hσ.left
  have hle : registered + tardy ≤ added := by
    refine le_trans ?_ hσ.entered
    rw [add_assoc]
    exact Multiset.le_add_left _ _
  refine ⟨?_, ?_, ?_⟩
  · rw [← tally_add]
    exact Multiset.nodup_iff_count_le_one.1
      (Multiset.nodup_of_le (Multiset.map_le_map hle) honce) t
  · rw [hregistered, tally_add, tally_add]
    omega
  · rw [htorn, hregistered, tally_add, tally_add, tally_add]
    omega

/-- A proxy that is passed to at most one registration is torn down at most once, and not while it
is registered.  When everything that has begun is over, and no caller has gone away, a proxy that
was registered and no longer is has been torn down once, unless it was replaced by another of its
resource, and then never; one that was never registered has been torn down once if its hook
succeeded and its registration found the registry stopped, and otherwise never. -/
theorem teardown_balance (memory : ω) (actions : List (Action ω)) {σ : System ω}
    (hσ : (initial memory).run s actions = σ)
    (honce : ((actions.flatMap Action.added).map tag).Nodup) :
    (σ.torn.map tag).Nodup ∧ (∀ t ∈ σ.torn.map tag, ¬σ.Houses t) ∧
      (σ.calls = [] → (∀ ticket, .abandon ticket ∉ actions) → ∀ t,
        (Lived s (initial memory) actions t → ¬σ.Houses t →
          ((finished s (initial memory) actions).map tag).count t =
            if Spared s (initial memory) actions t then 0 else 1) ∧
        (¬Lived s (initial memory) actions t →
          ((finished s (initial memory) actions).map tag).count t =
            if Late s (initial memory) actions t then 1 else 0)) := by
  subst hσ
  have honce' : ((actions.flatMap Action.added : Multiset (Proxy ω)).map tag).Nodup := by
    rw [Multiset.map_coe]
    exact Multiset.coe_nodup.2 honce
  have hguarded := guarded_run (s := s) memory actions
  have htally := (ledger_run (s := s) memory actions).tally_of_once honce'
  refine ⟨List.nodup_iff_count_le_one.2 fun t => ?_, fun t ht hhoused => ?_,
    fun hidle hkept t => ?_⟩
  · obtain ⟨hone, hleft, hsum⟩ := htally t
    rw [← tally_coe]
    omega
  · obtain ⟨hone, hleft, hsum⟩ := htally t
    have htorn := List.count_pos_iff.2 ht
    have hpos := hguarded.houses_iff.1 hhoused
    rw [← tally_coe] at htorn
    omega
  · -- nothing is waited for, so every teardown that was called has returned
    have hperm := torn_perm_finished (s := s) memory actions hkept
    rw [falling, hidle, List.flatMap_nil, List.append_nil] at hperm
    rw [← (hperm.map tag).count_eq, ← tally_coe]
    obtain ⟨hone, hleft, hsum⟩ := htally t
    constructor
    · intro hlived hgone
      have hregistered := (lived_iff memory).1 hlived
      have hnone := mt hguarded.houses_iff.2 hgone
      split
      · rename_i hspared
        have hpos := spared_iff.1 hspared
        omega
      · rename_i hspared
        have hzero := mt spared_iff.2 hspared
        omega
    · intro hlived
      have hregistered := mt (lived_iff memory).2 hlived
      split
      · rename_i hlate
        have hpos := late_iff.1 hlate
        omega
      · rename_i hlate
        have hzero := mt late_iff.2 hlate
        omega

/-- A node of a pod, told from other nodes of its identity by a number. -/
def podNode (serial : Nat) : Proxy Unit :=
  { judgingProxy "node:4444" (.accepted, ·) with serial, backing := some "pod-1" }

/-- A node of the pod replaces another; the registration of a third node is overtaken by the end of
the registry.  All that has begun is over. -/
def replacedRun : List (Action Unit) :=
  [.begin (.add (podNode 0)) {}, .resume 0 true, .begin (.add (podNode 1)) {}, .resume 1 true,
    .begin (.add (judgingProxy "node:5555" (.accepted, ·))) {}, .begin .stop {}, .resume 2 true,
    .resume 2 true, .resume 3 true]

theorem teardown_balance_replaced :
    ((replacedRun.flatMap Action.added).map tag).Nodup ∧
      ((initial ()).run countingSetting replacedRun).calls = [] ∧
      (((initial ()).run countingSetting replacedRun).torn.map tag).Nodup ∧
      ((finished countingSetting (initial ()) replacedRun).map tag).count ⟨"node:4444", 0⟩ = 0 ∧
      ((finished countingSetting (initial ()) replacedRun).map tag).count ⟨"node:4444", 1⟩ = 1 ∧
      ((finished countingSetting (initial ()) replacedRun).map tag).count ⟨"node:5555", 0⟩ = 1 := by
  have honce : ((replacedRun.flatMap Action.added).map tag).Nodup := by decide +kernel
  have hidle : ((initial ()).run countingSetting replacedRun).calls = [] := rfl
  have hkept : ∀ ticket, .abandon ticket ∉ replacedRun := by simp [replacedRun]
  obtain ⟨hnodup, -, hcount⟩ := teardown_balance () replacedRun
    (rfl : (initial ()).run countingSetting replacedRun = _) honce
  have hgone : ∀ t, ¬((initial ()).run countingSetting replacedRun).Houses t := by
    rintro t ⟨id, p, hp, -⟩
    exact nomatch hp
  refine ⟨honce, hidle, hnodup, ?_, ?_, ?_⟩
  · have hlived : Lived countingSetting (initial ()) replacedRun ⟨"node:4444", 0⟩ := by
      decide +kernel
    have hspared : Spared countingSetting (initial ()) replacedRun ⟨"node:4444", 0⟩ := by
      decide +kernel
    rw [(hcount hidle hkept _).1 hlived (hgone _), if_pos hspared]
  · have hlived : Lived countingSetting (initial ()) replacedRun ⟨"node:4444", 1⟩ := by
      decide +kernel
    have hspared : ¬Spared countingSetting (initial ()) replacedRun ⟨"node:4444", 1⟩ := by
      decide +kernel
    rw [(hcount hidle hkept _).1 hlived (hgone _), if_neg hspared]
  · have hlived : ¬Lived countingSetting (initial ()) replacedRun ⟨"node:5555", 0⟩ := by
      decide +kernel
    have hlate : Late countingSetting (initial ()) replacedRun ⟨"node:5555", 0⟩ := by
      decide +kernel
    rw [(hcount hidle hkept _).2 hlived, if_pos hlate]

end System

end BrowserGrid.Registry
