import BrowserGrid.Proofs.Registry.Waiting

/-!
# The fate of a request

An admitted request has exactly one fate, which is final once the request has left the queue, and a
request is discarded for nothing but a reason that obtains (`System.Justifies`).

* `System.Founded`: a request is discarded by the end of the registry, or by a pass that a matcher
  breaks off, only if that has happened.
* `System.request_conserved`: the fate of a request, its session, and its reason, in a run in which
  every matcher answers.
-/

namespace BrowserGrid.Registry

variable {ω : Type} {s : Setting ω} {callers : Callers}

/-! ### Why a section discards a request -/

/-- A request is discarded by the end of the registry only if the registry has been stopped. -/
theorem Section.stops {r r' : Registry ω} {freed : Option ProxyId} {news : List News}
    (h : Section s callers r freed r' news) {id : RequestId}
    (hid : News.dropped id .registryStopped ∈ news) : r'.stopped = true := by
  rcases h.news_cases hid with hother | ⟨_, hother⟩ | ⟨memory, _, rfl⟩ | ⟨out, hstop, _⟩
  · cases hother
  · cases hother
  · simp [SweepResult.news] at hid
  · obtain ⟨_, _, _, rfl⟩ := stop_eq hstop
    rfl

/-- A request is lost only by a sweep that answers that a matcher broke. -/
theorem start_breaks {r : Registry ω} {memory : ω} {op : Operation ω} {id : RequestId}
    (h : News.dropped id .sweepBroken ∈ (op.start s callers r memory).news) :
    (op.start s callers r memory).next = .answers .broken := by
  obtain ⟨rfl, hbroken⟩ := start_lost h
  exact if_pos hbroken

namespace System

variable {σ τ : System ω}

/-! ### Along a run -/

/-- A request is discarded by the end of the registry, or by a pass that was broken off, only if
that has happened. -/
structure Founded (σ : System ω) : Prop where
  stopped : ∀ ticket op id, Event.reported ticket op (.dropped id .registryStopped) ∈ σ.history →
    σ.registry.stopped = true
  broken : ∀ ticket op id, Event.reported ticket op (.dropped id .sweepBroken) ∈ σ.history →
    Event.answered ticket op .broken ∈ σ.history

theorem Founded.initial (memory : ω) : (System.initial memory).Founded where
  stopped := fun _ _ _ h => absurd h List.not_mem_nil
  broken := fun _ _ _ h => absurd h List.not_mem_nil

theorem Founded.of_section (hσ : σ.Founded) {freed : Option ProxyId} {turn : Turn ω}
    {ticket : Nat} {op : Operation ω}
    (hsection : Section s callers σ.registry freed turn.registry turn.news)
    (hregistry : τ.registry = turn.registry)
    (hhistory : τ.history = σ.history ++ turn.events ticket op)
    (hbroken : ∀ id, News.dropped id .sweepBroken ∈ turn.news → turn.next = .answers .broken) :
    τ.Founded where
  stopped := fun ticket' op' id hid => by
    rw [hhistory] at hid
    rw [hregistry]
    rcases List.mem_append.1 hid with hid | hid
    -- a registry that has been stopped stays stopped
    · have hbefore := hσ.stopped ticket' op' id hid
      refine Bool.of_not_eq_false fun hrunning => ?_
      rw [hsection.stopped_mono hrunning] at hbefore
      cases hbefore
    · exact hsection.stops (reported_mem_events.1 hid).2.2
  broken := fun ticket' op' id hid => by
    rw [hhistory] at hid ⊢
    rcases List.mem_append.1 hid with hid | hid
    · exact List.mem_append_left _ (hσ.broken ticket' op' id hid)
    · obtain ⟨rfl, rfl, hlost⟩ := reported_mem_events.1 hid
      refine List.mem_append_right _ ?_
      rw [Turn.events, hbroken id hlost]
      exact List.mem_append_right _ (List.mem_singleton.2 rfl)

theorem Founded.of_moved (h : Moved s σ τ) (hσ : σ.Founded) : τ.Founded := by
  cases h.outline with
  | quiet events hhistory hevents _ hstopped =>
    refine ⟨fun ticket op id hid => ?_, fun ticket op id hid => ?_⟩
    · rw [hstopped]
      exact hσ.stopped ticket op id (reported_of_quiet hhistory hevents hid)
    · rw [hhistory]
      exact List.mem_append_left _
        (hσ.broken ticket op id (reported_of_quiet hhistory hevents hid))
  | begun ticket op callers hregistry _ hhistory =>
    exact hσ.of_section (start_section ..) hregistry hhistory fun id hid => start_breaks hid
  | resumed c _ prepared hregistry _ hhistory =>
    refine hσ.of_section (resume_section s everybody ..) hregistry hhistory fun id hid => ?_
    rcases resume_news hid with hn | ⟨_, hn⟩ <;> cases hn

theorem founded_run (hσ : σ.Founded) (actions : List (Action ω)) : (σ.run s actions).Founded :=
  run_induction (fun ρ a hρ => hρ.of_moved (step_moved (s := s) ρ a)) hσ actions

/-! ### The fate of a request -/

/-- For each reason to discard the request `id`, its ground in `σ`: the handle of `id` is not held,
the registry is stopped, or an operation has answered `.broken`. -/
def Justifies (σ : System ω) (id : RequestId) : Discard → Prop
  | .callerGone => isHeld σ.mailboxes id = false
  | .registryStopped => σ.registry.stopped = true
  | .sweepBroken => ∃ ticket op, Event.answered ticket op .broken ∈ σ.history

/-- A request is discarded for a reason that obtains. -/
theorem Served.justifies (hσ : σ.Served) (hfounded : σ.Founded) {id : RequestId}
    (hid : id ∈ σ.admitted) {why : Discard} (h : σ.fates id = [.discarded why]) :
    σ.Justifies id why := by
  have hevent : .discarded why ∈ σ.history.filterMap (Event.fate? id) := by
    rw [history_of_fates h (by simp)]
    exact List.mem_singleton.2 rfl
  obtain ⟨e, he, hfate⟩ := List.mem_filterMap.1 hevent
  -- the fate is in the history, with the operation that reported it
  obtain ⟨ticket, op, rfl⟩ := eq_of_fate?_discarded hfate
  cases why with
  | callerGone =>
    refine Bool.eq_false_iff.2 fun hheld => ?_
    obtain ⟨m, hm, hmid⟩ := List.any_eq_true.1 hheld
    simp only [Bool.and_eq_true, decide_eq_true_eq] at hmid
    obtain ⟨rfl, hmheld⟩ := hmid
    rw [(hσ.told.agrees m hm _ h).2 rfl] at hmheld
    cases hmheld
  | registryStopped => exact hfounded.stopped ticket op id he
  | sweepBroken => exact ⟨ticket, op, hfounded.broken ticket op id he⟩

/-- In a run in which every matcher answers, an admitted request has exactly one fate at every
moment: it is in the queue once, or it was bound once, withdrawn once or discarded once, and then
because its caller was gone or the registry was stopped.  A session is created for it only if it was
bound, and only one, and the sessions have no other for it.  Once it has left the queue its fate is
final. -/
theorem request_conserved (memory : ω) (before after : List (Action ω))
    (hσ : σ = (System.initial memory).run s before) (hτ : τ = σ.run s after)
    (hfresh : τ.FreshRequests) (hdecides : ∀ p ∈ before.flatMap Action.added, Decides p)
    (id : RequestId) (hid : id ∈ σ.admitted) :
    ∃ f, σ.fates id = [f] ∧ σ.created.filter (·.requestId = id) = f.session?.toList ∧
      (∀ x ∈ σ.registry.active, x.requestId = id → ∃ y ∈ f.session?, y.key = x.key) ∧
      (∀ why, f = .discarded why → why ≠ .sweepBroken ∧ σ.Justifies id why) ∧
      (f ≠ .queued → τ.fates id = [f]) := by
  subst hτ
  have hfresh' := hfresh.of_run
  have hserved : σ.Served := by
    subst hσ
    exact served_run (.initial memory) before hfresh'
  have hfounded : σ.Founded := by
    subst hσ
    exact founded_run (.initial memory) before
  have hkept {f : Fate} (hf : σ.fates id = [f]) : f ≠ .discarded .sweepBroken := by
    subst hσ
    exact ne_lost_of_fates memory hdecides hf
  have hlater := conserved_run hserved.conserved after hfresh
  obtain ⟨events, hhistory⟩ := exists_history_run (s := s) σ after
  obtain ⟨f, hf⟩ := hserved.conserved.exists_fate hfresh' hid
  have hcreated : σ.created.filter (·.requestId = id) = f.session?.toList := by
    rw [filter_created, hf]
    cases f <;> rfl
  -- a session in the registry is one that was created, so the fate of its request speaks of it
  refine ⟨f, hf, hcreated, fun x hx hrequest => ?_, fun why hwhy => ?_,
    hserved.conserved.fates_final hlater hfresh hhistory hf⟩
  · obtain ⟨y, hy, hkey, hrequest'⟩ := hserved.conserved.origin x hx
    have hmem : y ∈ f.session?.toList := by
      rw [← hcreated, List.mem_filter]
      exact ⟨hy, by simp [hrequest', hrequest]⟩
    exact ⟨y, Option.mem_toList.1 hmem, hkey⟩
  · subst hwhy
    exact ⟨fun hlost => hkept hf (by rw [hlost]), hserved.justifies hfounded hid hf⟩

/-- A session is asked for and bound. -/
def boundRun : List (Action Unit) :=
  [.begin (.add (judgingProxy "node:4444" (.accepted, ·))) {}, .resume 0 true, .submit default,
    .begin .sweep {}]

/-- After it the session is released. -/
theorem request_conserved_bound :
    ∃ σ τ : System Unit, σ = (System.initial ()).run countingSetting boundRun ∧
      τ = σ.run countingSetting [.begin (.release ⟨⟨1⟩⟩ .clientGone) {}] ∧
      τ.FreshRequests ∧ (∀ p ∈ boundRun.flatMap Action.added, Decides p) ∧ ⟨⟨0⟩⟩ ∈ σ.admitted ∧
      ∃ f, σ.fates ⟨⟨0⟩⟩ = [f] ∧ (f ≠ .queued → τ.fates ⟨⟨0⟩⟩ = [f]) := by
  refine ⟨_, _, rfl, rfl, ?_⟩
  have hfresh : (((System.initial ()).run countingSetting boundRun).run countingSetting
      [.begin (.release ⟨⟨1⟩⟩ .clientGone) {}]).FreshRequests := by
    unfold FreshRequests
    decide +kernel
  have hid : ⟨⟨0⟩⟩ ∈ ((System.initial ()).run countingSetting boundRun).admitted := by
    decide +kernel
  have hdecides : ∀ p ∈ boundRun.flatMap Action.added, Decides p := by
    simp [boundRun, Action.added, Operation.added, Decides, judgingProxy]
  obtain ⟨f, hf, -, -, -, hfinal⟩ :=
    request_conserved () boundRun _ rfl rfl hfresh hdecides ⟨⟨0⟩⟩ hid
  exact ⟨hfresh, hdecides, hid, f, hf, hfinal⟩

end System

end BrowserGrid.Registry
