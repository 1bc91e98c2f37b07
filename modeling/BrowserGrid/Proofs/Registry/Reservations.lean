import BrowserGrid.Proofs.Registry.Course
import BrowserGrid.Proofs.Registry.Pods

/-!
# Which identities are taken

A registration takes the identity of its proxy in its first section and gives it back in its second.
While the registry runs, the identities that are taken are those of the registrations between these
sections, and those of the registrations whose callers went away there (`System.Reserved`).  The
latter are never given back: nobody is left to run the second section
(`System.registering_iff`, `System.registration_blocked`).

Nothing is registered under an identity that is taken (`Vacant`), so a registration that succeeds
replaces nothing.
-/

namespace BrowserGrid.Registry

variable {ω : Type} {s : Setting ω} {callers : Callers} {r r' : Registry ω}

/-! ### What a section does to the identities that are taken -/

theorem Call.identity?_eq (c : Call ω) : c.identity? = c.newcomer?.map (·.id) := by
  cases c <;> rfl

/-- The identity that an operation holds after a section. -/
def Next.identity? : Next ω → Option ProxyId
  | .waits call => call.identity?
  | .answers _ => none

theorem releaseTurn_registering (r : Registry ω) (memory : ω) (key : SessionKey)
    (reason : Termination) (spent : Session → Proxy ω → Call ω)
    (after : Option Session → Next ω) :
    (releaseTurn r memory key reason spent after).registry.registering = r.registering := by
  unfold releaseTurn
  split
  · rename_i h
    rw [(eq_of_release_none h).2]
  all_goals
    rename_i h
    obtain ⟨_, _, _, rfl⟩ := release_eq h
    rfl

theorem releaseTurn_identity? (r : Registry ω) (memory : ω) (key : SessionKey)
    (reason : Termination) {spent : Session → Proxy ω → Call ω} {after : Option Session → Next ω}
    (hspent : ∀ x p, (spent x p).identity? = none) (hafter : ∀ x, (after x).identity? = none) :
    (releaseTurn r memory key reason spent after).next.identity? = none := by
  rcases releaseTurn_next_cases r memory key reason spent after with ⟨x, h⟩ | ⟨x, p, h⟩ <;> rw [h]
  · exact hafter x
  · exact hspent x p

theorem afterReturn_identity? (keys : List SessionKey) (toProvision : List Request) :
    (afterReturn keys toProvision : Next ω).identity? = none := by
  unfold afterReturn
  split <;> rfl

theorem sweep_registering (s : Setting ω) (callers : Callers) (r : Registry ω) (memory : ω) :
    (r.sweep s callers memory).registry.registering = r.registering := by
  cases hstopped : r.stopped with
  | true => rw [sweep_of_stopped hstopped]
  | false =>
    obtain ⟨_, _, _, hpassed⟩ := sweep_passed s callers hstopped memory
    rw [hpassed.registry_eq]

/-- An operation that begins takes the identity that it holds from then on, and no other. -/
theorem start_registering (memory : ω) (op : Operation ω)
    (hrunning : (op.start s callers r memory).registry.stopped = false) :
    (op.start s callers r memory).registry.registering =
      (op.start s callers r memory).next.identity?.toList ++ r.registering := by
  have hbegins := start_begins s callers r memory op
  generalize op.start s callers r memory = turn at hbegins hrunning ⊢
  cases hbegins with
  | refused | missing | vacant | occupied | halted => rfl
  | staged p h =>
    obtain ⟨-, rfl⟩ := eq_of_removeProxy_none (stage_eq h).2.2
    rfl
  | @replaced p stale r' h =>
    obtain ⟨_, _, _, rfl⟩ := removeProxy_eq (stage_eq h).2.2
    show p.id :: r.registering = _
    cases keepsBacking stale.proxy p <;> rfl
  | removed id h =>
    obtain ⟨_, _, _, rfl⟩ := removeProxy_eq h
    rfl
  | released key reason =>
    rw [releaseTurn_identity? r memory key reason (fun _ _ => rfl) fun _ => rfl]
    exact releaseTurn_registering r memory key reason _ _
  | broken | swept | returning => exact sweep_registering s callers r memory
  | stopped h =>
    -- a registry that has just been stopped does not run
    obtain ⟨_, _, _, rfl⟩ := stop_eq h
    cases hrunning

/-- An operation that goes on keeps its identity, or gives it back in the section that ends its
registration. -/
theorem resume_registering (r : Registry ω) (memory : ω) (prepared : Bool) (c : Call ω) :
    ((c.resume r memory prepared).registry.registering = r.registering ∧
        (c.resume r memory prepared).next.identity? = c.identity?) ∨
      ∃ id, c.identity? = some id ∧ (c.resume r memory prepared).next.identity? = none ∧
        (c.resume r memory prepared).registry.registering = r.registering.filter (· ≠ id) := by
  cases c with
  | preparing new =>
    refine .inr ⟨new.id, rfl, ?_⟩
    unfold Call.resume
    dsimp only
    split <;>
    · rename_i h
      obtain ⟨_, rfl⟩ := promote_eq h
      exact ⟨rfl, rfl⟩
  | forcing key reason =>
    exact .inl ⟨releaseTurn_registering .., releaseTurn_identity? _ _ _ _ (fun _ _ => rfl)
      fun _ => rfl⟩
  | returning keys toProvision =>
    cases keys with
    | nil => exact .inl ⟨rfl, rfl⟩
    | cons key keys =>
      exact .inl ⟨releaseTurn_registering .., releaseTurn_identity? _ _ _ _ (fun _ _ => rfl)
        fun _ => afterReturn_identity? _ _⟩
  | retiring spent keys toProvision => exact .inl ⟨rfl, afterReturn_identity? _ _⟩
  | clearing | discarding | removing | releasing | stopping => exact .inl ⟨rfl, rfl⟩

/-! ### Nothing is registered under an identity that is taken -/

/-- Each identity is taken once, and nothing is registered under it. -/
structure Vacant (r : Registry ω) : Prop where
  nodup : r.registering.Nodup
  unhoused : ∀ id ∈ r.registering, r.live.proxy? id = none

theorem Vacant.empty : Vacant ({} : Registry ω) :=
  ⟨List.nodup_nil, fun _ h => absurd h List.not_mem_nil⟩

/-- A section that takes no identity and registers nothing. -/
theorem Vacant.mono (hr : Vacant r) (htaken : r'.registering = r.registering)
    (hlive : ∀ id p, r'.live.proxy? id = some p → r.live.proxy? id = some p) : Vacant r' where
  nodup := htaken ▸ hr.nodup
  unhoused := fun id hid => by
    have hnone := hr.unhoused id (htaken ▸ hid)
    cases hp : r'.live.proxy? id with
    | none => rfl
    | some p => exact (hlive id p hp).symm.trans hnone

/-- A section that takes one identity, under which nothing is registered any more. -/
theorem Vacant.stage {id : ProxyId} {stale : Option (Removed ω)} (hr : Vacant r)
    (h : r.stage id = (.staged stale, r')) (htaken : r'.registering = id :: r.registering)
    (hnone : r'.live.proxy? id = none)
    (hlive : ∀ other p, r'.live.proxy? other = some p → r.live.proxy? other = some p) :
    Vacant r' where
  nodup := by
    rw [htaken]
    exact List.nodup_cons.2 ⟨(stage_eq h).2.1, hr.nodup⟩
  unhoused := fun other hother => by
    rw [htaken] at hother
    rcases List.mem_cons.1 hother with rfl | hother
    · exact hnone
    · cases hp : r'.live.proxy? other with
      | none => rfl
      | some p => exact (hlive other p hp).symm.trans (hr.unhoused other hother)

theorem Section.vacant {freed : Option ProxyId} {news : List News}
    (h : Section s callers r freed r' news) (hr : Vacant r) : Vacant r' := by
  have hsame := h
  cases h with
  | idle => exact hr
  | released h =>
    refine hr.mono ?_ fun _ _ => hsame.proxy?_mono
    obtain ⟨_, _, _, rfl⟩ := release_eq h
    rfl
  | removed h =>
    refine hr.mono ?_ fun _ _ => hsame.proxy?_mono
    obtain ⟨_, _, _, rfl⟩ := removeProxy_eq h
    rfl
  | staged h =>
    obtain ⟨hnone, hremoved⟩ := eq_of_removeProxy_none (stage_eq h).2.2
    refine hr.stage h (by rw [hremoved]; rfl) ?_ fun _ _ => hsame.proxy?_mono
    rw [hremoved, LiveProxies.proxy?, hnone]
    rfl
  | replaced h =>
    refine hr.stage h ?_ (proxy?_of_removeProxy (stage_eq h).2.2).2 fun _ _ => hsame.proxy?_mono
    obtain ⟨_, _, _, rfl⟩ := removeProxy_eq (stage_eq h).2.2
    rfl
  | promoted h =>
    obtain ⟨_, rfl⟩ := promote_eq h
    refine ⟨hr.nodup.filter _, fun id hid => ?_⟩
    obtain ⟨hid, hne⟩ := List.mem_filter.1 hid
    have hnone := hr.unhoused id hid
    dsimp only
    split
    · rw [LiveProxies.proxy?_insert, if_neg (by simpa using hne)]
      exact hnone
    · exact hnone
  | swept memory =>
    exact hr.mono (sweep_registering s callers r memory) fun _ _ => hsame.proxy?_mono
  | stopped h =>
    obtain ⟨_, _, _, rfl⟩ := stop_eq h
    exact ⟨List.nodup_nil, fun _ h => absurd h List.not_mem_nil⟩

/-! ### Whose identities are taken -/

/-- The identity of a registration whose caller goes away between its two sections. -/
def Event.forsaken? : Event ω → Option ProxyId
  | .abandoned _ (.add p) call => if call.newcomer?.isSome then some p.id else none
  | _ => none

theorem perm_cons_filter_of_nodup {α : Type} {f : α → Nat} {xs : List α}
    (h : (xs.map f).Nodup) {x : α} (hx : x ∈ xs) :
    xs.Perm (x :: xs.filter (f · ≠ f x)) := by
  induction xs with
  | nil => exact absurd hx List.not_mem_nil
  | cons y ys ih =>
    obtain ⟨hy, hys⟩ := List.nodup_cons.1 h
    rcases List.mem_cons.1 hx with rfl | hx
    · have hall : ∀ z ∈ ys, decide (f z ≠ f x) = true := fun z hz => by
        rw [decide_eq_true_iff]
        exact fun heq => hy (heq ▸ List.mem_map_of_mem hz)
      rw [List.filter_cons_of_neg (by simp), List.filter_eq_self.2 hall]
    · have hne : f y ≠ f x := fun heq => hy (heq ▸ List.mem_map_of_mem hx)
      rw [List.filter_cons_of_pos (by simpa using hne)]
      exact ((ih hys hx).cons y).trans (List.Perm.swap x y _)

/-- What is there once is taken out. -/
theorem perm_filter_of_nodup {id : ProxyId} {xs ys : List ProxyId} (h : xs.Perm ([id] ++ ys))
    (hxs : xs.Nodup) : (xs.filter (· ≠ id)).Perm ys := by
  obtain ⟨hgone, -⟩ := List.nodup_cons.1 (h.nodup_iff.1 hxs)
  have hall : ∀ other ∈ ys, decide (other ≠ id) = true := fun other hother => by
    rw [decide_eq_true_iff]
    rintro rfl
    exact hgone hother
  have hfilter := h.filter (· ≠ id)
  rwa [List.singleton_append, List.filter_cons_of_neg (by simp), List.filter_eq_self.2 hall]
    at hfilter

namespace System

variable {σ τ : System ω}

theorem Numbered.calls_perm (hσ : σ.Numbered) {c : Underway ω} (hc : c ∈ σ.calls) :
    σ.calls.Perm (c :: (σ.without c.ticket).calls) :=
  perm_cons_filter_of_nodup hσ.nodup hc

/-- The identities of the registrations whose callers have gone away between the two sections. -/
def forsaken (σ : System ω) : List ProxyId := σ.history.filterMap Event.forsaken?

/-- As long as the registry runs, the identities that are taken are those of the registrations
between their two sections and of those that were given up there. -/
structure Reserved (σ : System ω) : Prop where
  /-- Nothing is registered under an identity that is taken. -/
  vacant : Vacant σ.registry
  /-- Whose identities are taken. -/
  perm : σ.registry.stopped = false →
    σ.registry.registering.Perm (identities σ.calls ++ σ.forsaken)

theorem Reserved.initial (memory : ω) : (System.initial memory).Reserved :=
  ⟨.empty, fun _ => .refl _⟩

theorem forsaken_append {events : List (Event ω)} (h : τ.history = σ.history ++ events) :
    τ.forsaken = σ.forsaken ++ events.filterMap Event.forsaken? := by
  rw [forsaken, h, List.filterMap_append, forsaken]

theorem forsaken_events (turn : Turn ω) (ticket : Nat) (op : Operation ω) :
    (turn.events ticket op).filterMap Event.forsaken? = [] := by
  refine List.filterMap_eq_nil_iff.2 fun e he => ?_
  rcases List.mem_append.1 he with he | he
  · obtain ⟨_, _, rfl⟩ := List.mem_map.1 he
    rfl
  · rw [List.mem_singleton.1 he]
    cases turn.next <;> rfl

theorem identities_cons (c : Underway ω) (calls : List (Underway ω)) :
    identities (c :: calls) = c.call.identity?.toList ++ identities calls := by
  cases h : c.call.identity? <;> simp [identities, h]

theorem identities_append (calls more : List (Underway ω)) :
    identities (calls ++ more) = identities calls ++ identities more :=
  List.filterMap_append

theorem identities_next (next : Next ω) (ticket : Nat) (op : Operation ω) :
    identities (next.calls ticket op) = next.identity?.toList := by
  cases next with
  | answers => rfl
  | waits call => exact (identities_cons ⟨ticket, op, call⟩ []).trans (List.append_nil _)

/-- The identities of the registrations under way are that of one operation and those of the
others. -/
theorem Numbered.identities_perm (hσ : σ.Numbered) {c : Underway ω} (hc : c ∈ σ.calls) :
    (identities σ.calls).Perm
      (c.call.identity?.toList ++ identities (σ.without c.ticket).calls) := by
  rw [← identities_cons]
  exact (hσ.calls_perm hc).filterMap _

theorem Reserved.apart (hσ : σ.Reserved) (h : Apart σ τ) : τ.Reserved where
  vacant := hσ.vacant.mono h.registering fun _ _ hp => h.live ▸ hp
  perm := fun hrunning => by
    obtain ⟨events, hhistory, hevents⟩ := h.history
    have hnone : events.filterMap Event.forsaken? = [] := by
      refine List.filterMap_eq_nil_iff.2 fun e he => ?_
      have hticket := hevents e he
      cases e with
      | abandoned => cases hticket
      | submitted | withdrawal | reported | paused | answered => rfl
    rw [h.registering, h.calls, forsaken_append hhistory, hnone, List.append_nil]
    exact hσ.perm (h.stopped ▸ hrunning)

theorem Reserved.begun (hσ : σ.Reserved) {op : Operation ω} {ticket : Nat}
    (hregistry : τ.registry = (op.start s callers σ.registry σ.memory).registry)
    (hcalls : τ.calls =
      σ.calls ++ (op.start s callers σ.registry σ.memory).next.calls ticket op)
    (hhistory : τ.history =
      σ.history ++ (op.start s callers σ.registry σ.memory).events ticket op) : τ.Reserved where
  vacant := hregistry ▸ (start_section callers σ.registry σ.memory op).vacant hσ.vacant
  perm := fun hrunning => by
    rw [hregistry] at hrunning ⊢
    have hold := hσ.perm ((start_section callers σ.registry σ.memory op).stopped_mono hrunning)
    rw [start_registering σ.memory op hrunning, hcalls, identities_append, identities_next,
      forsaken_append hhistory, forsaken_events, List.append_nil]
    -- the identity that is taken is put before the others
    refine (hold.append_left _).trans ?_
    rw [← List.append_assoc]
    exact List.perm_append_comm.append_right _

theorem Reserved.resumed (s : Setting ω) (hσ : σ.Reserved) (hnumbered : σ.Numbered) {c : Underway ω}
    (hc : c ∈ σ.calls) {prepared : Bool}
    (hregistry : τ.registry = (c.call.resume σ.registry σ.memory prepared).registry)
    (hcalls : τ.calls = (σ.without c.ticket).calls ++
      (c.call.resume σ.registry σ.memory prepared).next.calls c.ticket c.operation)
    (hhistory : τ.history = σ.history ++
      (c.call.resume σ.registry σ.memory prepared).events c.ticket c.operation) :
    τ.Reserved where
  vacant :=
    hregistry ▸ (resume_section s everybody σ.registry σ.memory prepared c.call).vacant hσ.vacant
  perm := fun hrunning => by
    rw [hregistry] at hrunning ⊢
    have hbefore :=
      (resume_section s everybody σ.registry σ.memory prepared c.call).stopped_mono hrunning
    have hold := (hσ.perm hbefore).trans ((hnumbered.identities_perm hc).append_right _)
    rw [hcalls, identities_append, identities_next, forsaken_append hhistory, forsaken_events,
      List.append_nil]
    rcases resume_registering σ.registry σ.memory prepared c.call with
      ⟨hsame, hnext⟩ | ⟨id, hid, hnext, hfiltered⟩
    · rw [hsame, hnext]
      exact hold.trans (List.perm_append_comm.append_right _)
    · -- no other registration has the identity that is given back
      rw [hid, List.append_assoc] at hold
      rw [hfiltered, hnext, Option.toList_none, List.append_nil]
      exact perm_filter_of_nodup hold hσ.vacant.nodup

theorem Reserved.abandoned (hσ : σ.Reserved) (hnumbered : σ.Numbered) (hguarded : σ.Guarded)
    {c : Underway ω} (hc : c ∈ σ.calls) (hregistry : τ.registry = σ.registry)
    (hcalls : τ.calls = (σ.without c.ticket).calls)
    (hhistory : τ.history = σ.history ++ [.abandoned c.ticket c.operation c.call]) :
    τ.Reserved where
  vacant := hregistry ▸ hσ.vacant
  perm := fun hrunning => by
    rw [hregistry] at hrunning ⊢
    -- what the operation held is now held for good
    have hkept : ([.abandoned c.ticket c.operation c.call] : List (Event ω)).filterMap
        Event.forsaken? = c.call.identity?.toList := by
      rw [Call.identity?_eq]
      cases hp : c.call.newcomer? with
      | none => cases hop : c.operation <;> simp [Event.forsaken?, hp]
      | some p => simp [Event.forsaken?, hguarded.fitting c hc p hp, hp]
    rw [hcalls, forsaken_append hhistory, hkept]
    refine (hσ.perm hrunning).trans (((hnumbered.identities_perm hc).append_right _).trans ?_)
    rw [List.append_assoc]
    refine List.perm_append_comm.trans ?_
    rw [List.append_assoc]

theorem Reserved.of_moved (h : Moved s σ τ) (hnumbered : σ.Numbered) (hguarded : σ.Guarded)
    (hσ : σ.Reserved) : τ.Reserved := by
  cases h.involved with
  | apart h => exact hσ.apart h
  | begun _ _ _ hregistry hcalls hhistory => exact hσ.begun hregistry hcalls hhistory
  | resumed c hc _ hregistry hcalls hhistory =>
    exact hσ.resumed s hnumbered hc hregistry hcalls hhistory
  | abandoned c hc hregistry hcalls hhistory =>
    exact hσ.abandoned hnumbered hguarded hc hregistry hcalls hhistory

theorem reserved_run (memory : ω) (actions : List (Action ω)) :
    ((System.initial memory).run s actions).Reserved := by
  have hall : ((System.initial memory).run s actions).Dated ∧
      ((System.initial memory).run s actions).Guarded ∧
      ((System.initial memory).run s actions).Reserved := by
    refine run_induction (P := fun σ => σ.Dated ∧ σ.Guarded ∧ σ.Reserved) ?_
      ⟨.initial memory, .initial memory, .initial memory⟩ actions
    rintro σ a ⟨hdated, hguarded, hreserved⟩
    have hmoved := step_moved (s := s) σ a
    exact ⟨hdated.of_moved hmoved (begun_le_step σ a), hguarded.of_moved hmoved,
      hreserved.of_moved hmoved hdated.numbered hguarded⟩
  exact hall.2.2

/-! ### Registrations that are given up -/

/-- A registration of an identity is between its two sections. -/
def Registering (σ : System ω) (id : ProxyId) : Prop :=
  ∃ c ∈ σ.calls, ∃ p, c.operation = .add p ∧ c.call.newcomer? = some p ∧ p.id = id

/-- The caller of a registration of an identity has gone away between its two sections. -/
def Forsaken (σ : System ω) (id : ProxyId) : Prop :=
  ∃ ticket p call, .abandoned ticket (.add p) call ∈ σ.history ∧
    call.newcomer?.isSome = true ∧ p.id = id

theorem mem_forsaken {id : ProxyId} : id ∈ σ.forsaken ↔ σ.Forsaken id := by
  rw [forsaken, List.mem_filterMap]
  constructor
  · rintro ⟨e, he, hid⟩
    cases e with
    | abandoned ticket op call =>
      cases op with
      | add p =>
        obtain ⟨hcall, hid⟩ := Option.ite_none_right_eq_some.1 hid
        exact ⟨ticket, p, call, he, hcall, Option.some.inj hid⟩
      | remove | release | forceRelease | sweep | stop => cases hid
    | submitted | withdrawal | reported | paused | answered => cases hid
  · rintro ⟨ticket, p, call, he, hcall, rfl⟩
    exact ⟨_, he, if_pos hcall⟩

theorem Guarded.mem_identities_iff (hσ : σ.Guarded) {id : ProxyId} :
    id ∈ identities σ.calls ↔ σ.Registering id := by
  rw [mem_identities]
  constructor
  · rintro ⟨c, hc, hid⟩
    rw [Call.identity?_eq] at hid
    obtain ⟨p, hp, rfl⟩ := Option.map_eq_some_iff.1 hid
    exact ⟨c, hc, p, hσ.fitting c hc p hp, hp, rfl⟩
  · rintro ⟨c, hc, p, -, hp, rfl⟩
    refine ⟨c, hc, ?_⟩
    rw [Call.identity?_eq, hp]
    rfl

theorem Forsaken.run {id : ProxyId} (h : σ.Forsaken id) (later : List (Action ω)) :
    (σ.run s later).Forsaken id := by
  obtain ⟨ticket, p, call, he, hcall, hid⟩ := h
  obtain ⟨events, hhistory⟩ := exists_history_run (s := s) σ later
  exact ⟨ticket, p, call, by rw [hhistory]; exact List.mem_append_left _ he, hcall, hid⟩

theorem Reserved.not_forsaken (hσ : σ.Reserved) (hguarded : σ.Guarded)
    (hrunning : σ.registry.stopped = false) {id : ProxyId} (hid : σ.Registering id) :
    ¬σ.Forsaken id := by
  intro hforsaken
  have hnodup := (hσ.perm hrunning).nodup_iff.1 hσ.vacant.nodup
  exact (List.nodup_append.1 hnodup).2.2 id (hguarded.mem_identities_iff.2 hid) id
    (mem_forsaken.2 hforsaken) rfl

theorem Reserved.mem_registering_iff (hσ : σ.Reserved) (hguarded : σ.Guarded)
    (hrunning : σ.registry.stopped = false) (id : ProxyId) :
    id ∈ σ.registry.registering ↔ σ.Registering id ∨ σ.Forsaken id := by
  rw [(hσ.perm hrunning).mem_iff, List.mem_append, hguarded.mem_identities_iff, mem_forsaken]

theorem stage_eq_alreadyRegistering_iff {r : Registry ω} (hrunning : r.stopped = false)
    (id : ProxyId) : r.stage id = (.refused (.alreadyRegistering id), r) ↔ id ∈ r.registering := by
  unfold stage
  rw [if_neg (by simp [hrunning])]
  by_cases hid : id ∈ r.registering
  · rw [if_pos hid]
    exact iff_of_true rfl hid
  · rw [if_neg hid]
    exact iff_of_false (fun h => nomatch h) hid

theorem start_add_of_refused {r : Registry ω} {p : Proxy ω} {error : RegistryError}
    (h : r.stage p.id = (.refused error, r)) (callers : Callers) (memory : ω) :
    (Operation.add p).start s callers r memory =
      { registry := r, memory, next := .answers (.added false) } := by
  rw [Operation.start, h]

/-- While the registry runs, an identity is taken exactly if a registration of it is between its two
sections, or was given up there by its caller; so the first alone decides exactly if none was given
up.  When no registration of it is under way, another one is refused as already under way exactly
if one was given up, and then so is every later one. -/
theorem registering_iff (memory : ω) (actions : List (Action ω)) {σ : System ω}
    (hσ : (initial memory).run s actions = σ) (hrunning : σ.registry.stopped = false)
    (id : ProxyId) :
    (id ∈ σ.registry.registering ↔ σ.Registering id ∨ σ.Forsaken id) ∧
      ((id ∈ σ.registry.registering ↔ σ.Registering id) ↔ ¬σ.Forsaken id) ∧
      (¬σ.Registering id →
        (σ.registry.stage id = (.refused (.alreadyRegistering id), σ.registry) ↔
          σ.Forsaken id)) ∧
      (σ.Forsaken id → ∀ later τ, σ.run s later = τ → τ.registry.stopped = false →
        ∀ p d, p.id = id →
          τ.registry.stage id = (.refused (.alreadyRegistering id), τ.registry) ∧
            (τ.step s (.begin (.add p) d)).registry = τ.registry ∧
            (τ.step s (.begin (.add p) d)).calls = τ.calls ∧
            (τ.step s (.begin (.add p) d)).history =
              τ.history ++ [.answered τ.begun (.add p) (.added false)]) := by
  have hguarded : σ.Guarded := hσ ▸ guarded_run memory actions
  have hreserved : σ.Reserved := hσ ▸ reserved_run memory actions
  have hmem := hreserved.mem_registering_iff hguarded hrunning id
  refine ⟨hmem, ?_, fun hidle => ?_, fun hforsaken later τ hτ hrunning' p d hp => ?_⟩
  · rw [hmem]
    constructor
    · exact fun h hforsaken =>
        hreserved.not_forsaken hguarded hrunning (h.1 (.inr hforsaken)) hforsaken
    · exact fun h => or_iff_left h
  · rw [stage_eq_alreadyRegistering_iff hrunning, hmem, or_iff_right hidle]
  · -- the later run is a run as well, and what was given up still is
    subst hp
    have hrun : (initial memory).run s (actions ++ later) = τ := by
      rw [run_append, hσ, hτ]
    have hguarded' : τ.Guarded := hrun ▸ guarded_run memory (actions ++ later)
    have hreserved' : τ.Reserved := hrun ▸ reserved_run memory (actions ++ later)
    have htaken := (hreserved'.mem_registering_iff hguarded' hrunning' p.id).2
      (.inr (hτ ▸ hforsaken.run later))
    have hrefused := (stage_eq_alreadyRegistering_iff hrunning' p.id).2 htaken
    have hstart := start_add_of_refused (s := s) hrefused (d.callers τ.mailboxes) τ.memory
    refine ⟨hrefused, ?_, ?_, ?_⟩
    · rw [step, afterBegin, hstart]
      rfl
    · rw [step, afterBegin, hstart]
      exact List.append_nil _
    · rw [step, afterBegin, hstart]
      rfl

/-- A node whose registration waits for its hook. -/
def slowNode : Proxy Unit := judgingProxy "node:4444" (.accepted, ·)

/-- The registration of a node is under way. -/
def slowSystem : System Unit :=
  (initial ()).run countingSetting [.begin (.add slowNode) {}]

theorem registering_iff_slow :
    slowSystem.Registering "node:4444" ∧ ¬slowSystem.Forsaken "node:4444" ∧
      "node:4444" ∈ slowSystem.registry.registering := by
  have hiff := registering_iff (s := countingSetting) () [.begin (.add slowNode) {}]
    (rfl : _ = slowSystem) rfl "node:4444"
  have hmem : "node:4444" ∈ slowSystem.registry.registering := List.mem_singleton.2 rfl
  have hheld : slowSystem.Registering "node:4444" :=
    ⟨⟨0, .add slowNode, .preparing slowNode⟩, List.mem_singleton.2 rfl, slowNode, rfl, rfl, rfl⟩
  exact ⟨hheld, hiff.2.1.1 (iff_of_true hmem hheld), hmem⟩

/-- The caller of a registration goes away while it waits for the hook.  Nothing is under way any
more and the registry runs, but the identity stays taken and the next registration is refused. -/
theorem registration_blocked :
    let σ := slowSystem.step countingSetting (.abandon 0)
    σ.registry.stopped = false ∧ σ.calls.length = 0 ∧ ¬σ.Registering "node:4444" ∧
      "node:4444" ∈ σ.registry.registering ∧
      σ.registry.stage "node:4444" = (.refused (.alreadyRegistering "node:4444"), σ.registry) ∧
      Event.answered 1 (.add slowNode) (.added false) ∈
        (σ.step countingSetting (.begin (.add slowNode) {})).history := by
  refine ⟨rfl, rfl, ?_, List.mem_singleton.2 rfl, rfl, List.mem_of_getElem? (i := 2) rfl⟩
  rintro ⟨c, hc, -⟩
  exact absurd hc List.not_mem_nil

end System

end BrowserGrid.Registry
