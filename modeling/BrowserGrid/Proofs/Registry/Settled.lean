import BrowserGrid.Proofs.Registry.Order
import BrowserGrid.Proofs.Registry.Visits

/-!
# When nothing can be matched

A registry is `Settled` when no free slot could take a request of its queue, as far as the matchers
answer by the two maps alone.  A sweep settles the registry (`sweep_settled`), and a section that
may unsettle it says so: it reports `News.changed` (`Section.settled`).
-/

namespace BrowserGrid.Registry

variable {ω : Type} {s : Setting ω} {callers : Callers}

/-! ### Settled queues -/

/-- The matcher of a proxy answers by the two maps alone. -/
def Steadfast (p : Proxy ω) : Prop :=
  ∀ offered requested memory memory',
    (p.judge offered requested memory).1 = (p.judge offered requested memory').1

theorem Answers.steadfast {accepts : Acceptance} {live : LiveProxies ω}
    (hanswers : Answers accepts live) {p : Place ω} (hp : p ∈ live.places) : Steadfast p.proxy := by
  intro offered requested m m'
  rw [hanswers.judge_eq hp, hanswers.judge_eq hp]

/-- A place cannot take a request. -/
def Place.Refuses (place : Place ω) (requested : Capabilities) : Prop :=
  Steadfast place.proxy →
    ∀ memory, (place.proxy.judge place.offered requested memory).1 = .refused

/-- No free slot can take a request of a queue. -/
def SettledFor (live : LiveProxies ω) (pending : List PendingRequest) : Prop :=
  ∀ p ∈ pending, ∀ place ∈ live.places, place.isFree → place.Refuses p.request.capabilities

/-- No free slot can take a queued request. -/
def Settled (r : Registry ω) : Prop := SettledFor r.live r.pending

theorem SettledFor.nil (live : LiveProxies ω) : SettledFor live [] :=
  fun _ h => absurd h List.not_mem_nil

theorem SettledFor.of_requests {live : LiveProxies ω} {pending pending' : List PendingRequest}
    (h : SettledFor live pending)
    (hpending : ∀ q ∈ pending'.map (·.request), q ∈ pending.map (·.request)) :
    SettledFor live pending' := by
  intro p hp
  obtain ⟨q, hq, heq⟩ := List.mem_map.1 (hpending _ (List.mem_map_of_mem hp))
  rw [← heq]
  exact h q hq

/-- A session takes a free slot away and changes nothing else that the search looks at. -/
theorem SettledFor.hold {live : LiveProxies ω} {pending : List PendingRequest}
    (h : SettledFor live pending) (slot : SlotId) (key : SessionKey) :
    SettledFor (live.hold slot key) pending := by
  intro p hp place hplace hfree
  rw [LiveProxies.places_hold] at hplace
  obtain ⟨old, hold, rfl⟩ := List.mem_map.1 hplace
  exact h p hp old hold (Place.isFree_of_hold hfree)

/-! ### A sweep settles the registry -/

namespace LiveProxies

/-- Whoever the search has gone past has refused. -/
theorem refused_of_searchList {requested : Capabilities} {free : List (FreeSlot ω)}
    {memory memory' : ω} (h : searchList requested free memory = (.nothing, memory')) :
    ∀ f ∈ free, ∃ m, (f.judge f.offered requested m).1 = .refused := by
  induction free generalizing memory with
  | nil => exact fun _ hf => absurd hf List.not_mem_nil
  | cons first rest ih =>
    unfold searchList at h
    split at h
    · cases h
    · rename_i hjudge
      intro f hf
      rcases List.mem_cons.1 hf with rfl | hf
      · exact ⟨memory, congrArg Prod.fst hjudge⟩
      · exact ih h f hf
    · cases h

theorem refuses_of_firstFree {live : LiveProxies ω} {requested : Capabilities}
    {memory memory' : ω} (h : firstFree live requested memory = (.nothing, memory')) :
    ∀ place ∈ live.places, place.isFree → place.Refuses requested := by
  intro place hplace hfree hsteadfast m
  have hmem : place.toFreeSlot ∈ freeSlots live := by
    rw [freeSlots_eq]
    exact List.mem_map_of_mem (List.mem_filter.2 ⟨hplace, hfree⟩)
  obtain ⟨m', hrefused⟩ := refused_of_searchList h _ hmem
  exact (hsteadfast _ _ m m').trans hrefused

/-- When no free place can take a request, the search finds nothing. -/
theorem searchList_eq_nothing {requested : Capabilities} {free : List (FreeSlot ω)}
    (h : ∀ f ∈ free, ∀ m, (f.judge f.offered requested m).1 = .refused) (memory : ω) :
    (searchList requested free memory).1 = .nothing := by
  induction free generalizing memory with
  | nil => rfl
  | cons first rest ih =>
    have hfirst := h first List.mem_cons_self memory
    unfold searchList
    split
    · rename_i hjudge
      rw [hjudge] at hfirst
      cases hfirst
    · exact ih (fun f hf => h f (List.mem_cons_of_mem _ hf)) _
    · rename_i hjudge
      rw [hjudge] at hfirst
      cases hfirst

end LiveProxies

namespace Sweep

theorem keep_remaining (w : Sweep ω) (p : PendingRequest) :
    ∃ q, q.request = p.request ∧ (keep s w p).remaining = w.remaining ++ [q] := by
  unfold keep
  split
  · exact ⟨{ p with provisioning := true }, rfl, rfl⟩
  · exact ⟨p, rfl, rfl⟩

theorem Decided.settledFor {w w' : Sweep ω} {p : PendingRequest} (h : Decided s callers w p w')
    (hw : SettledFor w.live w.remaining) : SettledFor w'.live w'.remaining := by
  cases h with
  | absent => exact hw
  | served =>
    rw [deliver_live, deliver_remaining]
    exact hw.hold _ _
  | waits _ hnothing =>
    obtain ⟨q, hq, hremaining⟩ := keep_remaining (s := s) { w with memory := _ } p
    rw [hremaining, keep_live]
    intro x hx
    rcases List.mem_append.1 hx with hx | hx
    · exact hw x hx
    · rw [List.mem_singleton.1 hx, hq]
      exact LiveProxies.refuses_of_firstFree hnothing

end Sweep

theorem sweep_settled {r : Registry ω} (hrunning : r.stopped = false) (memory : ω) :
    Settled (r.sweep s callers memory).registry := by
  rw [sweep, if_neg (by simp [hrunning])]
  dsimp only
  split
  · rename_i w hw
    exact Sweep.visitAll_preserves (P := fun v => SettledFor v.live v.remaining)
      Sweep.Decided.settledFor hw (SettledFor.nil r.live)
  · rename_i w lost _
    exact SettledFor.nil w.live

/-! ### What may unsettle a registry -/

/-- A section that may unsettle the registry reports a change. -/
theorem Section.settled {r r' : Registry ω} {freed : Option ProxyId} {news : List News}
    (h : Section s callers r freed r' news) (hr : Settled r) :
    News.changed ∈ news ∨ r'.stopped = true ∨ Settled r' := by
  cases h with
  | idle => exact .inr (.inr hr)
  | released => exact .inl (List.mem_cons_of_mem _ (List.mem_singleton_self _))
  | removed => exact .inl (List.mem_append_right _ (List.mem_singleton_self _))
  | replaced => exact .inl (List.mem_append_right _ (List.mem_singleton_self _))
  | staged h =>
    obtain ⟨_, _, h⟩ := stage_eq h
    rw [(eq_of_removeProxy_none h).2]
    exact .inr (.inr hr)
  | promoted h =>
    obtain ⟨_, rfl⟩ := promote_eq h
    split
    · exact .inl (List.mem_singleton_self _)
    · exact .inr (.inr hr)
  | swept memory =>
    cases hstopped : r.stopped with
    | true =>
      rw [sweep_of_stopped hstopped]
      exact .inr (.inl hstopped)
    | false => exact .inr (.inr (sweep_settled hstopped memory))
  | stopped h =>
    obtain ⟨_, _, _, rfl⟩ := stop_eq h
    exact .inr (.inl rfl)

end BrowserGrid.Registry
