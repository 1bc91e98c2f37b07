import BrowserGrid.Proofs.Registry.Course
import BrowserGrid.Proofs.Registry.Fates
import BrowserGrid.Proofs.Registry.Pods

/-!
# The end of a registry

A registry that has been stopped is `Shut`: nothing is queued, bound, registered or taken.  No
section changes it any more, whatever was under way (`Shut.section_eq`), so a run after the end
leaves the registry as it is and reports nothing (`System.shut_run`).

* `System.stop_absorbs`: all that follows from the end of a registry, `System.Ended`.
-/

namespace BrowserGrid.Registry

variable {ω : Type} {s : Setting ω} {callers : Callers} {r r' : Registry ω}

/-! ### A registry that is shut -/

/-- Nothing is queued, bound, registered or taken, and the registry is stopped. -/
structure Shut (r : Registry ω) : Prop where
  stopped : r.stopped = true
  pending : r.pending = []
  active : r.active = []
  registering : r.registering = []
  live : r.live = KeyMap.empty

namespace Shut

theorem session?_eq_none (hr : Shut r) (key : SessionKey) : r.session? key = none := by
  rw [session?, hr.active]
  rfl

theorem get?_eq_none (hr : Shut r) (id : ProxyId) : r.live.get? id = none := by
  rw [hr.live]
  rfl

theorem release_eq_none (hr : Shut r) (key : SessionKey) (reason : Termination) :
    r.release key reason = (none, r) := by
  rw [release, hr.session?_eq_none]

theorem removeProxy_eq_none (hr : Shut r) (id : ProxyId) (reason : Termination) :
    r.removeProxy id reason = (none, r) := by
  rw [removeProxy, hr.get?_eq_none]

theorem sessionIn?_eq_none (hr : Shut r) (slot : SlotId) : r.sessionIn? slot = none := by
  rw [sessionIn?, hr.live]
  rfl

theorem stage_eq_refused (hr : Shut r) (id : ProxyId) : r.stage id = (.refused .stopped, r) := by
  rw [stage, if_pos hr.stopped]

theorem sweep_eq (hr : Shut r) (memory : ω) :
    r.sweep s callers memory = { registry := r, memory } :=
  sweep_of_stopped hr.stopped memory

theorem stop_eq_none (hr : Shut r) : r.stop = (none, r) := by
  rw [stop, if_pos hr.stopped]

theorem submit_eq (hr : Shut r) (requested : Capabilities) (memory : ω) :
    r.submit s requested memory = (.error .stopped, r, memory) := by
  rw [submit, if_pos hr.stopped]

/-- The end of a registration: the proxy is not registered, whether it is prepared or not. -/
theorem promote_eq_late (hr : Shut r) (p : Proxy ω) (prepared : Bool) :
    r.promote p prepared = (if prepared then .late else .unprepared, r) := by
  have hsame : { r with registering := r.registering.filter (· ≠ p.id) } = r := by
    rw [hr.registering, List.filter_nil, ← hr.registering]
  unfold promote
  dsimp only
  cases prepared with
  | false => exact congrArg (Prod.mk Promotion.unprepared) hsame
  | true =>
    rw [if_neg (by simp), if_pos hr.stopped]
    exact congrArg (Prod.mk Promotion.late) hsame

theorem withdraw_eq (hr : Shut r) (id : RequestId) : r.withdraw id = (false, r) := by
  have hkept : r.pending.filter (·.request.id ≠ id) = r.pending := by
    rw [hr.pending]
    rfl
  unfold withdraw
  dsimp only
  rw [hkept]
  simp

theorem activate_eq (hr : Shut r) (key : SessionKey) (externalKey : String) :
    r.activate key externalKey = (.error (.unknownSession key), r) := by
  rw [activate, hr.session?_eq_none]

theorem provisioningFailed_eq (hr : Shut r) (id : RequestId) : r.provisioningFailed id = r := by
  rw [provisioningFailed, hr.pending, List.map_nil, ← hr.pending]

/-- No section changes a registry that is shut, or reports anything. -/
theorem section_eq (hr : Shut r) {freed : Option ProxyId} {news : List News}
    (h : Section s callers r freed r' news) : r' = r ∧ news = [] := by
  cases h with
  | idle => exact ⟨rfl, rfl⟩
  | released h =>
    rw [hr.release_eq_none] at h
    cases h
  | removed h =>
    rw [hr.removeProxy_eq_none] at h
    cases h
  | staged h =>
    rw [hr.stage_eq_refused] at h
    cases h
  | replaced h =>
    rw [hr.stage_eq_refused] at h
    cases h
  | promoted h =>
    rw [hr.promote_eq_late] at h
    cases h
    refine ⟨rfl, if_neg ?_⟩
    split <;> simp
  | swept memory =>
    rw [hr.sweep_eq]
    exact ⟨rfl, rfl⟩
  | stopped h =>
    rw [hr.stop_eq_none] at h
    cases h

end Shut

/-! ### Operations of a registry that is shut -/

/-- What an operation answers when there is nothing that it could do. -/
def Operation.vain : Operation ω → Answer
  | .add _ => .added false
  | .remove _ => .removed false
  | .release _ _ | .forceRelease _ _ => .released none
  | .sweep => .swept []
  | .stop => .stopped

theorem Shut.start_eq (hr : Shut r) (memory : ω) (op : Operation ω) :
    op.start s callers r memory = { registry := r, memory, next := .answers op.vain } := by
  cases op with
  | add p => rw [Operation.start, hr.stage_eq_refused, Operation.vain]
  | remove id => rw [Operation.start, hr.removeProxy_eq_none, Operation.vain]
  | release key reason =>
    rw [Operation.start, releaseTurn, hr.release_eq_none, Operation.vain]
  | forceRelease slot reason => rw [Operation.start, hr.sessionIn?_eq_none, Operation.vain]
  | sweep =>
    rw [Operation.start, hr.sweep_eq]
    rfl
  | stop => rw [Operation.start, hr.stop_eq_none, Operation.vain]

/-- A registration that reaches its second section tears its proxy down if that has prepared
itself. -/
theorem Shut.resume_preparing (hr : Shut r) (memory : ω) (prepared : Bool) (p : Proxy ω) :
    (Call.preparing p).resume r memory prepared =
      { registry := r, memory
        next := if prepared then .waits (.discarding p) else .answers (.added false) } := by
  rw [Call.resume, hr.promote_eq_late]
  cases prepared <;> rfl

/-- No registration answers that its proxy is registered. -/
theorem Shut.resume_ne_added (hr : Shut r) (memory : ω) (prepared : Bool) {op : Operation ω}
    {c : Call ω} (hc : c.Fits op) :
    (c.resume r memory prepared).next ≠ .answers (.added true) := by
  intro h
  cases c with
  | preparing new =>
    rw [hr.resume_preparing] at h
    cases prepared <;> cases h
  | forcing key reason =>
    rw [Call.resume, releaseTurn, hr.release_eq_none] at h
    cases h
  | returning keys toProvision =>
    cases keys with
    | nil => cases h
    | cons key keys =>
      rw [Call.resume, releaseTurn, hr.release_eq_none] at h
      dsimp only [afterReturn] at h
      split at h <;> cases h
  | retiring spent keys toProvision =>
    dsimp only [Call.resume, afterReturn] at h
    split at h <;> cases h
  | clearing | discarding | removing | releasing | stopping => cases h

/-! ### Runs of a registry that is shut -/

/-- An event that does nothing for requests, sessions and proxies. -/
def Event.Vain : Event ω → Prop
  | .submitted (.ok _) | .withdrawal _ _ true | .reported .. | .answered _ _ (.added true) => False
  | _ => True

namespace System

variable {σ ρ τ : System ω}

theorem vain_events {turn : Turn ω} (hnews : turn.news = [])
    (hnext : turn.next ≠ .answers (.added true)) (ticket : Nat) (op : Operation ω) :
    ∀ e ∈ turn.events ticket op, e.Vain := by
  intro e he
  rw [Turn.events, hnews, List.map_nil, List.nil_append] at he
  rw [List.mem_singleton.1 he]
  cases hturn : turn.next with
  | waits call => exact trivial
  | answers answer =>
    cases answer with
    | added live =>
      cases live with
      | false => exact trivial
      | true => exact absurd hturn hnext
    | removed | released | swept | broken | stopped => exact trivial

theorem Moved.of_shut (h : Moved s σ τ) (hσ : Shut σ.registry) (hfitting : σ.Fitting) :
    τ.registry = σ.registry ∧ ∃ events, τ.history = σ.history ++ events ∧ ∀ e ∈ events, e.Vain := by
  have hnil {ρ : System ω} (hρ : τ.history = ρ.history) :
      ∃ events, τ.history = ρ.history ++ events ∧ ∀ e ∈ events, e.Vain :=
    ⟨[], hρ.trans (List.append_nil _).symm, fun _ h => absurd h List.not_mem_nil⟩
  have hone {e : Event ω} (hhistory : τ.history = σ.history ++ [e]) (he : e.Vain) :
      ∃ events, τ.history = σ.history ++ events ∧ ∀ e ∈ events, e.Vain :=
    ⟨[e], hhistory, fun e' he' => by rwa [List.mem_singleton.1 he']⟩
  cases h with
  | still hregistry _ hhistory => exact ⟨hregistry, hnil hhistory⟩
  | refused error hregistry _ hhistory => exact ⟨hregistry, hone hhistory trivial⟩
  | admitted _ hrunning =>
    rw [hσ.stopped] at hrunning
    cases hrunning
  | withdrawn id own hregistry _ hhistory =>
    rw [hσ.withdraw_eq] at hregistry hhistory
    exact ⟨hregistry, hone hhistory trivial⟩
  | activated key externalKey hregistry _ hhistory =>
    rw [hσ.activate_eq] at hregistry
    exact ⟨hregistry, hnil hhistory⟩
  | unprovisioned id hregistry _ hhistory =>
    rw [hσ.provisioningFailed_eq] at hregistry
    exact ⟨hregistry, hnil hhistory⟩
  | begun ticket op callers turn hturn hregistry _ hhistory =>
    have hstart : op.start s callers σ.registry σ.memory = _ := hσ.start_eq σ.memory op
    rw [hturn, hstart] at hregistry hhistory
    refine ⟨hregistry, _, hhistory, vain_events rfl ?_ ticket op⟩
    cases op <;> simp [Operation.vain]
  | resumed c hc prepared turn hturn hregistry _ hhistory =>
    subst hturn
    obtain ⟨hsame, hnews⟩ :=
      hσ.section_eq (resume_section s everybody σ.registry σ.memory prepared c.call)
    exact ⟨hregistry.trans hsame, _, hhistory,
      vain_events hnews (hσ.resume_ne_added σ.memory prepared (hfitting c hc)) _ _⟩
  | abandoned c _ hregistry _ hhistory => exact ⟨hregistry, hone hhistory trivial⟩

theorem shut_run (hσ : Shut σ.registry) (hfitting : σ.Fitting) (later : List (Action ω)) :
    (σ.run s later).registry = σ.registry ∧
      ∃ events, (σ.run s later).history = σ.history ++ events ∧ ∀ e ∈ events, e.Vain := by
  induction later generalizing σ with
  | nil => exact ⟨rfl, [], (List.append_nil _).symm, fun _ h => absurd h List.not_mem_nil⟩
  | cons a later ih =>
    have hmoved := step_moved (s := s) σ a
    obtain ⟨hfirst, events, hevents, hvain⟩ := hmoved.of_shut hσ hfitting
    obtain ⟨hrest, events', hevents', hvain'⟩ :=
      ih (hfirst.symm ▸ hσ) (hfitting.of_moved hmoved)
    refine ⟨hrest.trans hfirst, events ++ events', ?_, fun e he => ?_⟩
    · rw [run_cons, hevents', hevents, List.append_assoc]
    · exact (List.mem_append.1 he).elim (hvain e) (hvain' e)

/-! ### Registrations under way -/

/-- An operation that goes on and waits again is under way. -/
theorem call?_step_resume {c : Underway ω} {ticket : Nat} (hc : σ.call? ticket = some c)
    (prepared : Bool) {call : Call ω}
    (hnext : (c.call.resume σ.registry σ.memory prepared).next = .waits call) :
    (step s σ (.resume ticket prepared)).call? ticket = some ⟨ticket, c.operation, call⟩ := by
  have hgone := call?_without_self σ ticket
  rw [call?] at hgone
  rw [step_resume hc, call?, afterTurn, hnext, List.find?_append, hgone, Option.none_or]
  simp [Next.calls]

theorem answered_step_resume {c : Underway ω} {ticket : Nat} (hc : σ.call? ticket = some c)
    (prepared : Bool) {answer : Answer}
    (hnext : (c.call.resume σ.registry σ.memory prepared).next = .answers answer) :
    .answered ticket c.operation answer ∈ (step s σ (.resume ticket prepared)).history := by
  rw [step_resume hc]
  refine List.mem_append_right _ (List.mem_append_right _ (List.mem_singleton.2 ?_))
  rw [hnext]
  rfl

theorem mem_history_run {e : Event ω} (he : e ∈ σ.history) (later : List (Action ω)) :
    e ∈ (σ.run s later).history := by
  obtain ⟨events, hhistory⟩ := exists_history_run (s := s) σ later
  rw [hhistory]
  exact List.mem_append_left _ he

theorem preparing_fails (hσ : Shut σ.registry) {ticket : Nat} {op : Operation ω} {p : Proxy ω}
    (hc : σ.call? ticket = some ⟨ticket, op, .preparing p⟩) (hook last : Bool) :
    .answered ticket op (.added false) ∈
      (σ.run s [.resume ticket hook, .resume ticket last]).history := by
  have hresume := congrArg Turn.next (hσ.resume_preparing σ.memory hook p)
  cases hook with
  | false =>
    have hfirst := answered_step_resume (s := s) hc false hresume
    exact mem_history_run hfirst [.resume ticket last]
  | true =>
    have hfirst := call?_step_resume (s := s) hc true hresume
    exact answered_step_resume (s := s) hfirst last rfl

/-- Every registration under way fails, wherever it waits. -/
theorem registration_fails (hσ : Shut σ.registry) {c : Underway ω} {ticket : Nat}
    (hc : σ.call? ticket = some c) {p : Proxy ω} (hp : c.operation = .add p)
    (hfits : c.call.Fits c.operation) (first second third : Bool) :
    .answered ticket (.add p) (.added false) ∈ (σ.run s
      [.resume ticket first, .resume ticket second, .resume ticket third]).history := by
  obtain ⟨n, op, call⟩ := c
  obtain rfl : n = ticket := (mem_of_call? hc).2
  obtain rfl : op = .add p := hp
  cases call with
  | clearing stale new =>
    have hfirst := call?_step_resume (s := s) hc first rfl
    have hshut : Shut (step s σ (.resume n first)).registry := by
      rw [step_resume hc]
      exact hσ
    exact preparing_fails hshut hfirst second third
  | preparing new =>
    have hfails := preparing_fails (s := s) hσ hc first second
    exact mem_history_run (s := s) hfails [.resume n third]
  | discarding new =>
    have hfails := answered_step_resume (s := s) hc first rfl
    exact mem_history_run hfails [.resume n second, .resume n third]
  | removing | releasing | forcing | returning | retiring | stopping => exact hfits.elim

theorem Numbered.call?_eq (hσ : σ.Numbered) {c : Underway ω} (hc : c ∈ σ.calls) :
    σ.call? c.ticket = some c := by
  obtain ⟨d, hd⟩ : ∃ d, σ.call? c.ticket = some d :=
    Option.isSome_iff_exists.1 (List.find?_isSome.2 ⟨c, hc, by simp⟩)
  obtain ⟨hmem, hticket⟩ := mem_of_call? hd
  rw [hd, hσ.eq_of_ticket hmem hc hticket]

/-! ### What the end tears down -/

/-- The end of the registry calls no teardowns after its first section. -/
theorem tornBy_run_of_stopping {ticket : Nat} (hticket : ticket < σ.begun)
    {proxies : List (Proxy ω)} (hcall : (σ.view ticket).call = some (.stopping proxies))
    (later : List (Action ω)) : (σ.run s later).tornBy ticket = σ.tornBy ticket := by
  have hlast : ∀ (r : Registry ω) (memory : ω) (prepared : Bool),
      ((Call.stopping proxies).resume r memory prepared).next = .answers .stopped :=
    fun _ _ _ => rfl
  rcases view_run_of_last (s := s) hticket hlast hcall later with ⟨hview, _⟩ | ⟨hview, _⟩ | hview
  · exact congrArg View.torn hview
  · exact congrArg View.torn hview
  · exact congrArg View.torn hview

end System

theorem start_stop (hrunning : r.stopped = false) (memory : ω) :
    Operation.stop.start s callers r memory =
      { registry := { r with stopped := true, pending := [], active := [], registering := [],
                             live := KeyMap.empty }
        memory
        news := (r.pending.map (·.request.id)).map (.dropped · .registryStopped) ++
          (r.active.map (·.finish .registryStopped)).map .ended
        next := .waits (.stopping r.proxies) } := by
  simp [Operation.start, stop, hrunning, proxies]

/-! ### Waits for requests that were queued -/

theorem Explains.eq_cancelled {result : Except RegistryError Session}
    (h : Explains result (.discarded .registryStopped)) : result = .error .cancelled := by
  cases result with
  | ok x => cases h
  | error e =>
    cases e with
    | cancelled => rfl
    | timeout => cases h
    | noMatchingProxy | stopped | unknownSession | alreadyRegistering => exact h.elim

namespace System

variable {σ ρ τ : System ω}

theorem Conserved.fates_of_pending (hσ : σ.Conserved) (hfresh : σ.FreshRequests)
    {p : PendingRequest} (hp : p ∈ σ.registry.pending) : σ.fates p.request.id = [.queued] := by
  have hqueued : Fate.queued ∈ σ.fates p.request.id := by
    refine List.mem_append_left _ (List.mem_map.2 ⟨p, ?_, rfl⟩)
    exact List.mem_filter.2 ⟨hp, by simp⟩
  have hadmitted : p.request.id ∈ σ.admitted := by
    refine List.count_pos_iff.1 ?_
    rw [← hσ.balance]
    exact List.length_pos_of_mem hqueued
  obtain ⟨f, hf⟩ := hσ.exists_fate hfresh hadmitted
  rw [hf] at hqueued ⊢
  rw [List.mem_singleton.1 hqueued]

theorem Conserved.fates_of_stop (hσ : σ.Conserved) (hrunning : σ.registry.stopped = false)
    (d : Departures) (hfresh : (step s σ (.begin .stop d)).FreshRequests) {p : PendingRequest}
    (hp : p ∈ σ.registry.pending) :
    (step s σ (.begin .stop d)).fates p.request.id = [.discarded .registryStopped] := by
  have hhistory : (step s σ (.begin .stop d)).history = σ.history ++
      (Operation.stop.start s (d.callers σ.mailboxes) σ.registry σ.memory).events σ.begun .stop :=
    rfl
  have hstart := hfresh.of_history hhistory
  have hqueued := hσ.fates_of_pending hstart hp
  have hlater := hσ.of_moved (step_moved (s := s) σ (.begin .stop d)) hstart
  have hadmitted : p.request.id ∈ (step s σ (.begin .stop d)).admitted := by
    rw [admitted_append hhistory]
    refine List.mem_append_left _ (List.count_pos_iff.1 ?_)
    rw [← hσ.balance, hqueued]
    exact Nat.one_pos
  obtain ⟨f, hf⟩ := hlater.exists_fate hfresh hadmitted
  -- the first section reports that the request is gone
  have hreported : Fate.discarded .registryStopped ∈
      ((Operation.stop.start s (d.callers σ.mailboxes) σ.registry σ.memory).events
        σ.begun .stop).filterMap (Event.fate? p.request.id) := by
    rw [List.mem_filterMap]
    refine ⟨.reported σ.begun .stop (.dropped p.request.id .registryStopped),
      reported_mem_events.2 ⟨rfl, rfl, ?_⟩, if_pos rfl⟩
    rw [start_stop hrunning]
    exact List.mem_append_left _ (List.mem_map_of_mem (List.mem_map_of_mem hp))
  rcases fates_step hhistory hqueued hf with ⟨hnone, -⟩ | ⟨-, hone⟩
  · rw [hnone] at hreported
    exact absurd hreported List.not_mem_nil
  · rw [hone] at hreported
    rw [hf, List.mem_singleton.1 hreported]

/-- A wait for a request that the end of the registry has discarded is cancelled. -/
theorem Served.cancelled (hσ : σ.Served) (hfresh : σ.FreshRequests) {id : RequestId}
    (hf : σ.fates id = [.discarded .registryStopped]) :
    (∀ result, σ.waits id = .returned result → result = .error .cancelled) ∧
      (isHeld σ.mailboxes id = true → (σ.waits id).isUnderway = true →
        (σ.run s ((σ.waits id).course id)).waits id = .returned (.error .cancelled)) := by
  constructor
  · intro result hresult
    obtain ⟨f, hf', hexplained⟩ := hσ.waited id (by rw [hresult]; simp)
    rw [hresult] at hexplained
    obtain rfl : Fate.discarded .registryStopped = f := (List.cons.inj (hf.symm.trans hf')).1
    exact Explains.eq_cancelled hexplained
  · intro hheld hunderway
    obtain ⟨result, hresult, hexplains⟩ := hσ.course (s := s) hfresh hheld hunderway hf (by simp)
    rw [hresult, hexplains.eq_cancelled]

theorem Served.fates_of_stop (hσ : σ.Served) (hrunning : σ.registry.stopped = false)
    (d : Departures) (later : List (Action ω))
    (hfresh : ((step s σ (.begin .stop d)).run s later).FreshRequests) {p : PendingRequest}
    (hp : p ∈ σ.registry.pending) :
    ((step s σ (.begin .stop d)).run s later).fates p.request.id =
      [.discarded .registryStopped] := by
  have hfresh' : (step s σ (.begin .stop d)).FreshRequests := hfresh.of_run
  have hstopped : (step s σ (.begin .stop d)).Served :=
    served_run (s := s) hσ [.begin .stop d] hfresh'
  have hlater := served_run (s := s) hstopped later hfresh
  obtain ⟨events, hhistory⟩ := exists_history_run (s := s) (step s σ (.begin .stop d)) later
  have hfate := hσ.conserved.fates_of_stop hrunning d hfresh' hp
  exact hstopped.conserved.fates_final hlater.conserved hfresh hhistory hfate (by simp)

/-! ### The section that ends the registry -/

theorem registry_stop (hrunning : σ.registry.stopped = false) (d : Departures) :
    (step s σ (.begin .stop d)).registry = { σ.registry with
      stopped := true, pending := [], active := [], registering := [], live := KeyMap.empty } := by
  show (Operation.stop.start s (d.callers σ.mailboxes) σ.registry σ.memory).registry = _
  rw [start_stop hrunning]

theorem shut_stop (hrunning : σ.registry.stopped = false) (d : Departures) :
    Shut (step s σ (.begin .stop d)).registry := by
  rw [registry_stop hrunning]
  exact ⟨rfl, rfl, rfl, rfl, rfl⟩

/-- The end calls the teardowns of the proxies that were registered. -/
theorem Dated.tornBy_stop (hσ : σ.Dated) (hrunning : σ.registry.stopped = false) (d : Departures)
    (later : List (Action ω)) :
    ((step s σ (.begin .stop d)).run s later).tornBy σ.begun = σ.registry.proxies := by
  have hview := hσ.view_afterBegin (s := s) .stop d
  rw [start_stop hrunning] at hview
  have hbegun : σ.begun < (step s σ (.begin .stop d)).begun := Nat.lt_succ_self _
  rw [tornBy_run_of_stopping hbegun (congrArg View.call hview)]
  exact congrArg View.torn hview

theorem step_preparing_of_shut (hσ : Shut σ.registry) {c : Underway ω}
    (hc : σ.call? c.ticket = some c) {p : Proxy ω} (hp : c.call = .preparing p) (prepared : Bool) :
    (step s σ (.resume c.ticket prepared)).registry = σ.registry ∧
      (step s σ (.resume c.ticket prepared)).tornBy c.ticket =
        σ.tornBy c.ticket ++ if prepared then [p] else [] := by
  have hresume := hσ.resume_preparing σ.memory prepared p
  have hview := view_afterTurn (σ.without c.ticket) c.ticket c.operation
    (c.call.resume σ.registry σ.memory prepared) (call?_without_self σ c.ticket)
  have htorn := congrArg View.torn hview
  rw [hp, hresume] at htorn
  rw [step_resume hc, hp, hresume]
  refine ⟨rfl, htorn.trans ?_⟩
  cases prepared with
  | false => exact (List.append_nil _).symm
  | true => rfl

/-! ### The end is final -/

/-- What holds for good once a registry has been stopped: `σ` is the system before, `ρ` right after
the section that stops it, and `τ` at any later time. -/
structure Ended (s : Setting ω) (σ ρ τ : System ω) : Prop where
  /-- Nothing is queued, bound, registered or taken. -/
  registry : τ.registry = { σ.registry with
    stopped := true, pending := [], active := [], registering := [], live := KeyMap.empty }
  /-- No request was admitted or withdrawn since, no proxy registered, and nothing was reported. -/
  vain : ∃ events, τ.history = ρ.history ++ events ∧ ∀ e ∈ events, e.Vain
  /-- Whoever asks for a session is told that the registry is stopped. -/
  refused : ∀ requested,
    τ.registry.submit s requested τ.memory = (.error .stopped, τ.registry, τ.memory)
  /-- An operation that begins is over at once and has done nothing, be it a registration, a sweep
  or another end. -/
  idle : ∀ op d υ, step s τ (.begin op d) = υ →
    υ.registry = τ.registry ∧ υ.memory = τ.memory ∧ υ.calls = τ.calls ∧
      υ.history = τ.history ++ [.answered τ.begun op op.vain]
  /-- A registration under way answers that its proxy is not registered. -/
  fails : ∀ c ∈ τ.calls, ∀ p, c.operation = .add p → ∀ first second third,
    .answered c.ticket (.add p) (.added false) ∈ (τ.run s
      [.resume c.ticket first, .resume c.ticket second, .resume c.ticket third]).history
  /-- If its hook was successful, its proxy is torn down instead. -/
  late : ∀ c ∈ τ.calls, ∀ p, c.call = .preparing p → ∀ prepared υ,
    step s τ (.resume c.ticket prepared) = υ →
      υ.registry = τ.registry ∧
        υ.tornBy c.ticket = τ.tornBy c.ticket ++ if prepared then [p] else []
  /-- Every proxy that was registered has been torn down once by the end, and no other. -/
  torn : ((τ.tornBy σ.begun).map (·.id)).Nodup ∧
    ∀ p, p ∈ τ.tornBy σ.begun ↔ σ.registry.live.proxy? p.id = some p
  /-- A wait for a request that was in the queue is cancelled. -/
  cancelled : τ.FreshRequests → ∀ p ∈ σ.registry.pending,
    (∀ result, τ.waits p.request.id = .returned result → result = .error .cancelled) ∧
      (isHeld τ.mailboxes p.request.id = true → (τ.waits p.request.id).isUnderway = true →
        (τ.run s ((τ.waits p.request.id).course p.request.id)).waits p.request.id =
          .returned (.error .cancelled))

/-- The end of a registry is final, whatever was under way and whatever happens later. -/
theorem stop_absorbs (memory : ω) (before later : List (Action ω)) (d : Departures)
    (hσ : (initial memory).run s before = σ) (hrunning : σ.registry.stopped = false)
    (hρ : step s σ (.begin .stop d) = ρ) (hτ : ρ.run s later = τ) : Ended s σ ρ τ := by
  have hrun : (initial memory).run s (before ++ .begin .stop d :: later) = τ := by
    rw [run_append, hσ, run_cons, hρ, hτ]
  have hdated : τ.Dated := hrun ▸ dated_run memory _
  have hfitting : τ.Fitting := hrun ▸ fitting_run memory _
  have hguarded : σ.Guarded := hσ ▸ guarded_run memory before
  have hdatedσ : σ.Dated := hσ ▸ dated_run memory before
  have hfittingσ : σ.Fitting := hσ ▸ fitting_run memory before
  subst hρ hτ
  -- the section that stops the registry shuts it, and from then on nothing changes it
  have hshut := shut_stop (s := s) hrunning d
  obtain ⟨hsame, hvain⟩ := shut_run hshut (hfittingσ.of_moved (step_moved σ _)) later
  rw [← hsame] at hshut
  refine
    { registry := hsame.trans (registry_stop hrunning d)
      vain := hvain
      refused := fun requested => hshut.submit_eq requested _
      idle := ?idle
      fails := fun c hc p hp first second third =>
        registration_fails hshut (hdated.numbered.call?_eq hc) hp (hfitting c hc) first second third
      late := ?late
      torn := ?torn
      cancelled := ?cancelled }
  case idle =>
    rintro op d' υ rfl
    rw [step, afterBegin, hshut.start_eq]
    exact ⟨rfl, rfl, List.append_nil _, rfl⟩
  case late =>
    rintro c hc p hp prepared υ rfl
    exact step_preparing_of_shut hshut (hdated.numbered.call?_eq hc) hp prepared
  case torn =>
    rw [hdatedσ.tornBy_stop hrunning d later]
    exact ⟨hguarded.housed.nodup_ids, hguarded.housed.mem_proxies_iff⟩
  case cancelled =>
    intro hfresh p hp
    have hfresh' : (σ.run s (.begin .stop d :: later)).FreshRequests := hfresh
    have hserved : σ.Served := hσ ▸ served_run (.initial memory) before (hσ.symm ▸ hfresh'.of_run)
    have hlater := served_run hserved (.begin .stop d :: later) hfresh'
    exact hlater.cancelled hfresh (hserved.fates_of_stop hrunning d later hfresh hp)

/-- A node is registered and a request queued, and the registration of another node waits for its
hook. -/
def busyRun : List (Action Unit) :=
  [.begin (.add (judgingProxy "node:4444" (.accepted, ·))) {}, .resume 0 true, .submit default,
    .begin (.add (judgingProxy "node:5555" (.accepted, ·))) {}]

/-- The hook succeeds after the end of the registry, and somebody waits for the request. -/
def lateSteps : List (Action Unit) :=
  [.resume 1 true, .wait ⟨⟨0⟩⟩ ⟨0⟩]

theorem stop_absorbs_busy :
    ∃ σ ρ τ : System Unit, (initial ()).run countingSetting busyRun = σ ∧
      σ.registry.stopped = false ∧ step countingSetting σ (.begin .stop {}) = ρ ∧
      ρ.run countingSetting lateSteps = τ ∧ τ.FreshRequests ∧
      σ.registry.pending.length = 1 ∧ σ.registry.live.size = 1 ∧ τ.calls.length = 2 ∧
      Ended countingSetting σ ρ τ ∧
      (τ.run countingSetting [.receive ⟨⟨0⟩⟩]).waits ⟨⟨0⟩⟩ = .returned (.error .cancelled) := by
  refine ⟨_, _, _, rfl, rfl, rfl, rfl, ?_, rfl, rfl, rfl, ?_⟩
  · unfold FreshRequests
    decide +kernel
  · exact ⟨stop_absorbs () busyRun lateSteps {} rfl rfl rfl rfl, by decide +kernel⟩

end System

end BrowserGrid.Registry
