import BrowserGrid.Proofs.Registry.Teardowns
import BrowserGrid.Proofs.Registry.Visits

/-!
# Runs in which every matcher answers

A request is lost when a matcher breaks in the middle of a pass.  The registered proxies are among
those that were passed to a registration, so when the matchers of these answer (`Decides`), as those
of the hub do (`Routed.decides`), no pass of the run is broken off and no request is lost.

* `start_lost`: a request is lost by a pass that is broken off, and by nothing else.
* `System.proxies_subset_added`: whoever is registered was passed to a registration.
* `System.ne_lost_of_fates`: no request is lost in a run in which every matcher answers.
-/

namespace BrowserGrid.Registry

variable {ω : Type} {s : Setting ω} {callers : Callers}

/-! ### How a request is lost -/

theorem sweep_broken_of_lost {r : Registry ω} {memory : ω} {id : RequestId}
    (h : id ∈ (r.sweep s callers memory).lost) : (r.sweep s callers memory).broken = true := by
  cases hstopped : r.stopped with
  | true =>
    rw [sweep_of_stopped hstopped] at h
    exact absurd h List.not_mem_nil
  | false =>
    obtain ⟨_, _, _, hpassed⟩ := sweep_passed s callers hstopped memory
    rw [hpassed.lost_eq] at h
    split at h
    · assumption
    · exact absurd h List.not_mem_nil

/-- A request is lost only by a pass that a matcher breaks off. -/
theorem start_lost {r : Registry ω} {memory : ω} {op : Operation ω} {id : RequestId}
    (h : News.dropped id .sweepBroken ∈ (op.start s callers r memory).news) :
    op = .sweep ∧ (r.sweep s callers memory).broken = true := by
  rcases start_news h with rfl | rfl | hn | ⟨_, hn⟩
  · have hlost : id ∈ (r.sweep s callers memory).lost := by simpa [Operation.start] using h
    exact ⟨rfl, sweep_broken_of_lost hlost⟩
  · rw [Operation.start] at h
    split at h <;> simp at h
  · cases hn
  · cases hn

theorem mem_proxies_of_place {r : Registry ω} {place : Place ω} (h : place ∈ r.live.places) :
    place.proxy ∈ r.proxies := by
  obtain ⟨e, _, he, _, hplace⟩ := LiveProxies.mem_places.1 h
  have hproxy : e.proxy = place.proxy := (congrArg Place.proxy hplace).symm
  rw [← hproxy]
  exact List.mem_map_of_mem (List.mem_map_of_mem (KeyMap.get?_eq_some_iff.1 he))

namespace System

variable {σ : System ω}

/-! ### Along a run -/

/-- Whoever is registered after a run was passed to a registration in the run. -/
theorem proxies_subset_added (memory : ω) (actions : List (Action ω)) :
    ((initial memory).run s actions).registry.proxies ⊆ actions.flatMap Action.added := by
  obtain ⟨hentered, removed, -, hregistered⟩ := ledger_run (s := s) memory actions
  have hle : (((initial memory).run s actions).registry.proxies : Multiset (Proxy ω)) ≤
      actions.flatMap Action.added :=
    calc (((initial memory).run s actions).registry.proxies : Multiset (Proxy ω))
        ≤ collect s (ofCall Call.registered) (initial memory) actions := by
          rw [hregistered]
          exact Multiset.le_add_left _ _
      _ ≤ ((initial memory).run s actions).newcomers +
            collect s (ofCall Call.registered) (initial memory) actions := Multiset.le_add_left _ _
      _ ≤ _ := Multiset.le_add_right _ _
      _ ≤ actions.flatMap Action.added := hentered
  exact Multiset.coe_subset.1 (Multiset.subset_of_le hle)

/-- No pass loses a request in a run in which every matcher answers. -/
theorem lost_not_mem_history (memory : ω) {actions : List (Action ω)}
    (hdecides : ∀ p ∈ actions.flatMap Action.added, Decides p) (ticket : Nat) (op : Operation ω)
    (id : RequestId) :
    Event.reported ticket op (.dropped id .sweepBroken) ∉
      ((initial memory).run s actions).history := by
  induction actions using List.reverseRecOn with
  | nil => exact List.not_mem_nil
  | append_singleton actions a ih =>
    have hbefore : ∀ p ∈ actions.flatMap Action.added, Decides p := fun p hp =>
      hdecides p (by rw [List.flatMap_append]; exact List.mem_append_left _ hp)
    rw [run_append]
    generalize hσ : (initial memory).run s actions = σ at ih ⊢
    intro hlost
    cases (step_moved (s := s) σ a).outline with
    | quiet events hhistory hevents => exact ih hbefore (reported_of_quiet hhistory hevents hlost)
    | begun _ _ callers _ _ hhistory =>
      rw [run_cons, run_nil, hhistory] at hlost
      refine (List.mem_append.1 hlost).elim (ih hbefore) fun hlost => ?_
      -- the registered proxies were passed to registrations before, so the pass was whole
      have hunbroken := sweep_unbroken s callers (r := σ.registry)
        (fun place hplace => hbefore _ (proxies_subset_added memory actions
          (hσ ▸ mem_proxies_of_place hplace))) σ.memory
      rw [(start_lost (reported_mem_events.1 hlost).2.2).2] at hunbroken
      cases hunbroken
    | resumed c _ prepared _ _ hhistory =>
      rw [run_cons, run_nil, hhistory] at hlost
      refine (List.mem_append.1 hlost).elim (ih hbefore) fun hlost => ?_
      rcases resume_news (reported_mem_events.1 hlost).2.2 with hn | ⟨_, hn⟩ <;> cases hn

theorem eq_of_fate?_discarded {e : Event ω} {id : RequestId} {why : Discard}
    (h : e.fate? id = some (.discarded why)) :
    ∃ ticket op, e = .reported ticket op (.dropped id why) := by
  cases e with
  | reported ticket op n =>
    cases n with
    | dropped other why' =>
      rw [Event.fate?, News.fate?] at h
      split at h <;> cases h
      rename_i heq
      exact ⟨ticket, op, by rw [heq]⟩
    | bound x =>
      rw [Event.fate?, News.fate?] at h
      split at h <;> cases h
    | changed | delivered | ended => cases h
  | withdrawal other own found =>
    rw [Event.fate?] at h
    split at h <;> cases h
  | submitted | paused | answered | abandoned => cases h

/-- No request is lost in a run in which every matcher answers. -/
theorem ne_lost_of_fates (memory : ω) {actions : List (Action ω)}
    (hdecides : ∀ p ∈ actions.flatMap Action.added, Decides p) {id : RequestId} {f : Fate}
    (hf : ((initial memory).run s actions).fates id = [f]) : f ≠ .discarded .sweepBroken := by
  rintro rfl
  have hlost := history_of_fates hf (by simp)
  have hmem : .discarded .sweepBroken ∈
      ((initial memory).run s actions).history.filterMap (Event.fate? id) := by
    rw [hlost]
    exact List.mem_singleton.2 rfl
  obtain ⟨e, he, hfate⟩ := List.mem_filterMap.1 hmem
  obtain ⟨ticket, op, rfl⟩ := eq_of_fate?_discarded hfate
  exact lost_not_mem_history memory hdecides ticket op id he

end System

end BrowserGrid.Registry
