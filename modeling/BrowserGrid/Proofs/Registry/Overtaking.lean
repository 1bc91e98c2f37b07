import BrowserGrid.Proofs.Registry.Asking
import BrowserGrid.Proofs.Registry.Orders
import BrowserGrid.Proofs.Registry.Settled

/-!
# Requests that overtake

A sweep comes to the requests in the order of service, and equal requests are taken by the same
slots, as far as the table of the versions last seen has no say.  Searching a slot for a request
notes the versions that the free slots of the fleet offer, so the slots of the cloud may refuse a
request and take an equal one later in the same sweep.

* `overtakes_iff`: of two equal requests the later one is bound while the earlier one stays exactly
  if they insist on a version of a browser, and a free slot of the cloud that takes them is reached
  for the earlier one while this version was seen last, and for the later one while another was.
-/

namespace BrowserGrid.Registry

open Versions

variable {s : Setting Versions} {callers : Callers}

/-! ### What a pass leaves behind it -/

/-- A pass has come from one state to another. -/
structure Sweep.Later (v w : Sweep Versions) : Prop where
  /-- The places are those that there were, and the free ones were free. -/
  places : ∀ place ∈ w.live.places, ∃ old ∈ v.live.places, place.slot = old.slot ∧
    place.toAsked = old.toAsked ∧ (place.isFree → old.isFree)
  memory : v.memory.Evolves w.memory
  bound : ∀ x ∈ v.bound, x ∈ w.bound

namespace Sweep

theorem Later.refl (v : Sweep Versions) : Later v v where
  places place hplace := ⟨place, hplace, rfl, rfl, id⟩
  memory := .refl _
  bound _ hx := hx

theorem Later.trans {u v w : Sweep Versions} (h : Later u v) (h' : Later v w) : Later u w where
  places place hplace := by
    obtain ⟨old, hold, hslot, hasked, hfree⟩ := h'.places place hplace
    obtain ⟨older, holder, hslot', hasked', hfree'⟩ := h.places old hold
    exact ⟨older, holder, hslot.trans hslot', hasked.trans hasked', hfree' ∘ hfree⟩
  memory := h.memory.trans h'.memory
  bound x hx := h'.bound x (h.bound x hx)

theorem Later.routed {v w : Sweep Versions} (h : Later v w)
    (hrouted : ∀ place ∈ v.live.places, Routed place.proxy) :
    ∀ place ∈ w.live.places, Routed place.proxy := by
  intro place hplace
  obtain ⟨old, hold, -, hasked, -⟩ := h.places place hplace
  rw [show place.proxy = old.proxy from congrArg Prod.fst hasked]
  exact hrouted old hold

theorem Decided.later {w w' : Sweep Versions} {p : PendingRequest}
    (h : Decided s callers w p w') (hrouted : ∀ place ∈ w.live.places, Routed place.proxy) :
    Later w w' := by
  cases h with
  | absent => exact ⟨(Later.refl w).places, (Later.refl w).memory, fun _ hx => hx⟩
  | @served hpresent slot offered memory hfound =>
    refine ⟨fun place hplace => ?_, ?_, fun x hx => ?_⟩
    · rw [deliver_live, withSession, LiveProxies.places_hold] at hplace
      obtain ⟨old, hold, rfl⟩ := List.mem_map.1 hplace
      exact ⟨old, hold, rfl, rfl, Place.isFree_of_hold⟩
    · rw [deliver_memory]
      exact LiveProxies.evolves_firstFree hrouted hfound
    · rw [deliver_bound]
      exact List.mem_append_left _ hx
  | @waits hpresent memory hnothing =>
    refine ⟨?_, ?_, ?_⟩
    · rw [keep_live]
      exact (Later.refl w).places
    · rw [keep_memory]
      exact LiveProxies.evolves_firstFree hrouted hnothing
    · rw [keep_bound]
      exact fun _ hx => hx

/-- Among routed proxies no matcher breaks. -/
theorem exists_visit (s : Setting Versions) (callers : Callers) {v : Sweep Versions}
    (hrouted : ∀ place ∈ v.live.places, Routed place.proxy) (p : PendingRequest) :
    ∃ w, visit s callers v p = .ok w := by
  unfold visit
  split
  · exact ⟨_, rfl⟩
  · obtain ⟨⟨slot, offered, t, hfound⟩, -⟩ | ⟨hnothing, -⟩ :=
      LiveProxies.firstFree_cases hrouted p.request.capabilities v.memory
    · rw [hfound]
      exact ⟨_, rfl⟩
    · rw [hnothing]
      exact ⟨_, rfl⟩

theorem exists_visitAll (s : Setting Versions) (callers : Callers) {v : Sweep Versions}
    (hrouted : ∀ place ∈ v.live.places, Routed place.proxy) (queue : List PendingRequest) :
    ∃ w, visitAll s callers v queue = .ok w := by
  induction queue generalizing v with
  | nil => exact ⟨v, rfl⟩
  | cons p rest ih =>
    obtain ⟨w, hw⟩ := exists_visit s callers hrouted p
    rw [visitAll, hw]
    exact ih ((decided_of_visit hw).later hrouted |>.routed hrouted)

theorem later_of_visitAll {v w : Sweep Versions} {queue : List PendingRequest}
    (hrouted : ∀ place ∈ v.live.places, Routed place.proxy)
    (h : visitAll s callers v queue = .ok w) : Later v w :=
  visitAll_preserves (P := Later v)
    (fun hdecided hv => hv.trans (hdecided.later (hv.routed hrouted))) h (.refl v)

theorem visitAll_append {ω : Type} {s : Setting ω} {v w : Sweep ω} {seen : List PendingRequest}
    (h : visitAll s callers v seen = .ok w) (rest : List PendingRequest) :
    visitAll s callers v (seen ++ rest) = visitAll s callers w rest := by
  induction seen generalizing v with
  | nil =>
    cases h
    rfl
  | cons p seen ih =>
    rw [List.cons_append, visitAll]
    unfold visitAll at h
    split at h
    · exact ih h
    · cases h

end Sweep

/-! ### The order of the visits -/

variable {r : Registry Versions} {table : Versions} {p q : PendingRequest} {v w : Sweep Versions}

/-- The pass comes to a request after it has been to those that precede it. -/
theorem Reaches.between (hp : Reaches s callers r table p v) (hq : Reaches s callers r table q w)
    (hprecedes : Precedes p.request q.request) :
    ∃ queue, v.visitAll s callers (p :: queue) = .ok w := by
  obtain ⟨seen, rest, hqueue, hseen⟩ := hp
  obtain ⟨seen', rest', hqueue', hseen'⟩ := hq
  have hne : p ≠ q := fun heq => (heq ▸ hprecedes).asymm (heq ▸ hprecedes)
  rcases List.append_eq_append_iff.1 (hqueue.symm.trans hqueue') with
    ⟨between, hfront, hback⟩ | ⟨between, hfront, hback⟩
  · cases between with
    | nil => exact absurd (List.cons.inj hback).1 hne
    | cons first queue =>
      obtain ⟨rfl, -⟩ := List.cons.inj hback
      refine ⟨queue, ?_⟩
      rw [← hseen', hfront, Sweep.visitAll_append hseen]
  · cases between with
    | nil => exact absurd (List.cons.inj hback).1.symm hne
    | cons first queue =>
      -- the later request would stand in front of the earlier one
      obtain ⟨rfl, -⟩ := List.cons.inj hback
      have hsorted := pairwise_before r.pending
      rw [hqueue, List.pairwise_append] at hsorted
      have hbefore := hsorted.2.2 q (hfront ▸ by simp) p List.mem_cons_self
      rw [before_iff] at hbefore
      unfold Precedes at hprecedes
      omega

theorem Reaches.routed (h : Reaches s callers r table p v)
    (hrouted : ∀ id e, r.live.get? id = some e → Routed e.proxy) :
    ∀ place ∈ v.live.places, Routed place.proxy := by
  intro place hplace
  obtain ⟨e, he, hproxy⟩ := h.exists_entry hplace
  exact hproxy ▸ hrouted _ e he

/-! ### What becomes of the two requests -/

/-- Among routed proxies a sweep goes through its whole queue. -/
theorem exists_walk (s : Setting Versions) (callers : Callers)
    (hrouted : ∀ id e, r.live.get? id = some e → Routed e.proxy) (hrunning : r.stopped = false)
    (table : Versions) :
    ∃ w, (sweepStart r table).visitAll s callers (r.pending.mergeSort before) = .ok w ∧
      (r.sweep s callers table).bound = w.bound ∧
      (r.sweep s callers table).registry.pending = w.remaining := by
  have hplaces : ∀ place ∈ (sweepStart r table).live.places, Routed place.proxy := by
    intro place hplace
    obtain ⟨e, _, he, _, heq⟩ := LiveProxies.mem_places.1 hplace
    rw [congrArg Place.proxy heq]
    exact hrouted _ e he
  obtain ⟨w, hw⟩ := Sweep.exists_visitAll s callers hplaces (r.pending.mergeSort before)
  refine ⟨w, hw, ?_, ?_⟩ <;> rw [sweep_of_visitAll hrunning hw]

/-- Whoever stays was visited, and the search found nothing. -/
theorem left_reached (hrouted : ∀ id e, r.live.get? id = some e → Routed e.proxy)
    (hrunning : r.stopped = false) {p : PendingRequest}
    (hp : p ∈ (r.sweep s callers table).registry.pending) :
    ∃ p' v t, Reaches s callers r table p' v ∧ p'.request = p.request ∧
      v.live.firstFree p.request.capabilities v.memory = (.nothing, t) := by
  obtain ⟨w, hw, -, hpending⟩ := exists_walk s callers hrouted hrunning table
  rw [hpending] at hp
  obtain ⟨seen, p', rest, v, v', hqueue, hv, hdecided, hbefore, hafter⟩ :=
    Sweep.exists_turn (P := (p ∈ ·.remaining)) hw List.not_mem_nil hp
  cases hdecided with
  | absent => exact absurd hafter hbefore
  | served =>
    rw [Sweep.deliver_remaining] at hafter
    exact absurd hafter hbefore
  | @waits _ t hnothing =>
    obtain ⟨kept, hkept, hremaining⟩ := Sweep.keep_remaining (s := s) { v with memory := t } p'
    rw [hremaining] at hafter
    have hlast := List.mem_singleton.1 ((List.mem_append.1 hafter).resolve_left hbefore)
    rw [← hlast] at hkept
    exact ⟨p', v, t, ⟨seen, rest, hqueue, hv⟩, hkept.symm, hkept ▸ hnothing⟩

/-- Whoever is there when the pass comes to it, and for whom the search finds a slot, is bound. -/
theorem Reaches.bound (h : Reaches s callers r table q w)
    (hrouted : ∀ id e, r.live.get? id = some e → Routed e.proxy) (hrunning : r.stopped = false)
    (hpresent : callers.present q.request.id = true) {slot : SlotId} {offered : Capabilities}
    {t : Versions}
    (hfound : w.live.firstFree q.request.capabilities w.memory = (.found slot offered, t)) :
    ∃ x ∈ (r.sweep s callers table).bound, x.requestId = q.request.id := by
  have hplaces := h.routed hrouted
  obtain ⟨last, hlast, hbound, -⟩ := exists_walk s callers hrouted hrunning table
  obtain ⟨seen, rest, hqueue, hseen⟩ := h
  rw [hqueue, Sweep.visitAll_append hseen, Sweep.visitAll] at hlast
  rw [hbound]
  obtain ⟨next, hnext⟩ := Sweep.exists_visit s callers hplaces q
  rw [hnext] at hlast
  have hdecided := Sweep.decided_of_visit hnext
  have hlater : Sweep.Later next last :=
    Sweep.later_of_visitAll ((hdecided.later hplaces).routed hplaces) hlast
  cases hdecided with
  | absent habsent =>
    rw [hpresent] at habsent
    cases habsent
  | @served _ slot offered t _ =>
    refine ⟨w.nextSession s q slot offered, hlater.bound _ ?_, rfl⟩
    rw [Sweep.deliver_bound]
    exact List.mem_append_right _ (List.mem_singleton_self _)
  | waits _ hnothing =>
    rw [hnothing] at hfound
    cases hfound

/-! ### Overtaking -/

/-- The table, as the search for a later request sees it anywhere, has evolved from what the search
in vain for an earlier one has seen at a free place. -/
theorem Sweep.onTheWay_evolves {t : Versions}
    (hrouted : ∀ place ∈ v.live.places, Routed place.proxy)
    (hpresent : callers.present p.request.id = true)
    (hnothing : v.live.firstFree p.request.capabilities v.memory = (.nothing, t))
    {queue : List PendingRequest} (hvisits : v.visitAll s callers (p :: queue) = .ok w)
    {old : Place Versions} (hold : old ∈ v.live.places) (hfree : old.isFree)
    (requested : Capabilities) (slot : SlotId) :
    (v.live.onTheWay p.request.capabilities old.slot v.memory).Evolves
      (w.live.onTheWay requested slot w.memory) := by
  have hlater : Later v w := later_of_visitAll hrouted hvisits
  obtain ⟨next, hnext⟩ := exists_visit s callers hrouted p
  rw [visitAll, hnext] at hvisits
  have hdecided := decided_of_visit hnext
  have hmemory : next.memory =
      LiveProxies.askAll p.request.capabilities (v.live.places.filter Place.isFree) v.memory := by
    cases hdecided with
    | absent habsent =>
      rw [hpresent] at habsent
      cases habsent
    | served _ hfound =>
      rw [hnothing] at hfound
      cases hfound
    | waits _ hnothing' =>
      rw [keep_memory]
      exact (LiveProxies.of_nothing hrouted hnothing').1
  -- the rest of that search, the visits in between, and the way to the slot
  have hsearch : (v.live.onTheWay p.request.capabilities old.slot v.memory).Evolves next.memory :=
    hmemory ▸ LiveProxies.onTheWay_evolves hrouted hold hfree _ _
  have hbetween : next.memory.Evolves w.memory :=
    later_of_visitAll ((hdecided.later hrouted).routed hrouted) hvisits |>.memory
  have hway : w.memory.Evolves (w.live.onTheWay requested slot w.memory) :=
    LiveProxies.evolves_onTheWay (hlater.routed hrouted) requested slot _
  exact (hsearch.trans hbetween).trans hway

/-- Two equal requests of a queue whose callers are there, in the order of service. -/
structure Rivals (callers : Callers) (r : Registry Versions) (p q : PendingRequest) : Prop where
  first_mem : p ∈ r.pending
  second_mem : q ∈ r.pending
  same : q.request.capabilities = p.request.capabilities
  precedes : Precedes p.request q.request
  first_present : callers.present p.request.id = true
  second_present : callers.present q.request.id = true

/-- Of two equal requests whose callers are there, the later one is bound while the earlier one
stays exactly if they insist on a version of a browser, and a free slot of the cloud that takes them
was reached for the earlier one while this version was seen last, and for the later one while it was
not. -/
theorem overtakes_iff (hrouted : ∀ id e, r.live.get? id = some e → Routed e.proxy)
    (hrunning : r.stopped = false) (hnodup : (r.pending.map (·.request.id)).Nodup)
    (hrivals : Rivals callers r p q)
    (hleft : ∃ p' ∈ (r.sweep s callers table).registry.pending, p'.request = p.request) :
    (∃ x ∈ (r.sweep s callers table).bound, x.requestId = q.request.id) ↔
      ∃ v w, Reaches s callers r table p v ∧ Reaches s callers r table q w ∧
        ∃ place ∈ w.live.places, place.isFree ∧ place.proxy.kind = .cloud ∧
          cloudTakes place.offered p.request.capabilities = true ∧
          ∃ wanted version, p.request.capabilities.browserName? = some wanted ∧
            p.request.capabilities.pinnedVersion? = some version ∧
            ((v.live.onTheWay p.request.capabilities place.slot v.memory).latest? wanted).map
              Text.trim = some (Text.trim version) ∧
            ((w.live.onTheWay p.request.capabilities place.slot w.memory).latest? wanted).map
              Text.trim ≠ some (Text.trim version) := by
  obtain ⟨hp, hq, hsame, hprecedes, hpresent, hpresent'⟩ := hrivals
  have hsamePending : ∀ {p q : PendingRequest}, p ∈ r.pending → q ∈ r.pending →
      p.request.id = q.request.id → p = q :=
    fun hp hq hid => List.inj_on_of_nodup_map hnodup hp hq hid
  constructor
  · rintro ⟨x, hx, hid⟩
    obtain ⟨q', w, slot, offered, t, hq', -, hfound, rfl⟩ := bound_reached hx
    obtain rfl : q = q' := hsamePending hq hq'.mem_pending hid.symm
    obtain ⟨p', hp', hrequest⟩ := hleft
    obtain ⟨first, v, t', hv, hfirst, hnothing⟩ := left_reached hrouted hrunning hp'
    obtain rfl : p = first :=
      hsamePending hp hv.mem_pending (congrArg Request.id (hfirst.trans hrequest)).symm
    rw [hrequest] at hnothing
    -- the slot that `q` gets was free when `p` was visited, and refused `p`: only the table between
    -- the two visits can have made the difference
    obtain ⟨queue, hqueue⟩ := hv.between hq' hprecedes
    have hroutedV := hv.routed hrouted
    have hroutedW := hq'.routed hrouted
    rw [hsame] at hfound
    obtain ⟨place, hplace, hfree, htakes⟩ := LiveProxies.takesAt_of_found hroutedW hfound
    obtain ⟨old, hold, hslot, hasked, hwas⟩ :=
      (Sweep.later_of_visitAll hroutedV hqueue).places place hplace
    have hrefused := (LiveProxies.of_nothing hroutedV hnothing).2 old hold (hwas hfree)
    have hevolves := Sweep.onTheWay_evolves hroutedV hpresent hnothing hqueue hold (hwas hfree)
      p.request.capabilities place.slot
    obtain ⟨hkind, hcloud, wanted, version, hversions⟩ :=
      LiveProxies.cloud_of_takesAt (hroutedW place hplace) hslot hasked hevolves hrefused htakes
    exact ⟨v, w, hv, hq', place, hplace, hfree, hkind, hcloud, wanted, version, hversions⟩
  · rintro ⟨v, w, -, hw, place, hplace, hfree, hkind, htakes, wanted, version, hwanted, hversion,
      -, hother⟩
    have hroutedW := hw.routed hrouted
    -- a slot takes `q`, so the search finds one, this or an earlier one
    have htakesAt : w.live.TakesAt p.request.capabilities w.memory place :=
      ((hroutedW place hplace).judge_cloud_iff hkind ..).2
        ⟨htakes, canServe_eq_false_of_version hwanted hversion hother⟩
    obtain ⟨⟨slot, offered, t, hfound⟩, -⟩ | ⟨-, hnone⟩ :=
      LiveProxies.firstFree_cases hroutedW p.request.capabilities w.memory
    · rw [← hsame] at hfound
      exact hw.bound hrouted hrunning hpresent' hfound
    · exact absurd htakesAt (hnone place hplace hfree)

/-! ### A request that is overtaken -/

/-- A node with chrome 120 whose identity comes before that of the cloud provider. -/
def earlyNode : Proxy Versions :=
  .node 2 "10.0.0.0:5555" ⟨"node-0", "10.0.0.0", none⟩ [chromeVersion "120.0"] {}

/-- The early node runs a session, a cloud provider and a node with a newer chrome are free, and two
requests for chrome 120 are queued. -/
def crowdedGrid : System Versions :=
  (System.initial .empty).run countingSetting
    [.begin (.add earlyNode) {}, .resume 0 true, .submit chrome, .begin .sweep {},
      .begin (.add cloudProxy) {}, .resume 2 true,
      .begin (.add (fleetNode (chromeVersion "121.0"))) {}, .resume 3 true,
      .submit (chromeVersion "120.0"), .submit (chromeVersion "120.0")]

/-- Nobody is gone. -/
def crowdedCallers : Callers := ({} : Departures).callers crowdedGrid.mailboxes

/-- The request for chrome 120 of this number and place in the order of arrival. -/
def chromeRequest (number sequence : Nat) : PendingRequest :=
  { request := ⟨⟨⟨.ofNat 128 number⟩⟩, chromeVersion "120.0", 0, sequence⟩ }

set_option maxRecDepth 10000 in
theorem routed_crowdedGrid :
    ∀ id e, crowdedGrid.registry.live.get? id = some e → Routed e.proxy := by
  have hproxies : crowdedGrid.registry.live.values.map (·.proxy) =
      [earlyNode, cloudProxy, fleetNode (chromeVersion "121.0")] := by
    with_unfolding_all rfl
  refine routed_of_proxies hproxies ?_
  simp only [List.forall_mem_cons]
  exact ⟨routed_node .., routed_provider .., routed_node .., nofun⟩

theorem pending_crowdedGrid :
    crowdedGrid.registry.pending = [chromeRequest 2 1, chromeRequest 3 2] := by
  decide +kernel

theorem rivals_crowdedGrid :
    Rivals crowdedCallers crowdedGrid.registry (chromeRequest 2 1) (chromeRequest 3 2) where
  first_mem := by rw [pending_crowdedGrid]; decide +kernel
  second_mem := by rw [pending_crowdedGrid]; decide +kernel
  same := rfl
  precedes := by decide
  first_present := by decide +kernel
  second_present := by decide +kernel

/-- The node with the newer chrome is asked for the first request, after the cloud has refused it,
and before the cloud is asked for the second. -/
theorem overtaken_crowdedGrid :
    (∃ p ∈ (crowdedGrid.registry.sweep countingSetting crowdedCallers
        crowdedGrid.memory).registry.pending, p.request = (chromeRequest 2 1).request) ∧
      ∃ x ∈ (crowdedGrid.registry.sweep countingSetting crowdedCallers crowdedGrid.memory).bound,
        x.requestId = (chromeRequest 3 2).request.id := by
  have hsorted : crowdedGrid.registry.pending.mergeSort before = crowdedGrid.registry.pending :=
    List.mergeSort_of_pairwise (by decide +kernel)
  unfold sweep
  rw [hsorted]
  decide +kernel

theorem overtakes_iff_crowded :
    ∃ p q, Rivals crowdedCallers crowdedGrid.registry p q ∧
      (∃ p' ∈ (crowdedGrid.registry.sweep countingSetting crowdedCallers
        crowdedGrid.memory).registry.pending, p'.request = p.request) ∧
      (∃ x ∈ (crowdedGrid.registry.sweep countingSetting crowdedCallers crowdedGrid.memory).bound,
        x.requestId = q.request.id) ∧
      ∃ v w, Reaches countingSetting crowdedCallers crowdedGrid.registry crowdedGrid.memory p v ∧
        Reaches countingSetting crowdedCallers crowdedGrid.registry crowdedGrid.memory q w ∧
        ∃ place ∈ w.live.places, place.isFree ∧ place.proxy.kind = .cloud ∧
          cloudTakes place.offered p.request.capabilities = true := by
  have hrunning : crowdedGrid.registry.stopped = false := by decide +kernel
  have hnodup : (crowdedGrid.registry.pending.map (·.request.id)).Nodup := by decide +kernel
  obtain ⟨hleft, hbound⟩ := overtaken_crowdedGrid
  obtain ⟨v, w, hv, hw, place, hplace, hfree, hkind, htakes, -⟩ :=
    (overtakes_iff routed_crowdedGrid hrunning hnodup rivals_crowdedGrid hleft).1 hbound
  exact ⟨chromeRequest 2 1, chromeRequest 3 2, rivals_crowdedGrid, hleft, hbound, v, w, hv, hw,
    place, hplace, hfree, hkind, htakes⟩

/-- Among nodes and cloud providers, the later of two equal requests whose callers are there is
bound, and the earlier one stays. -/
theorem request_overtaken :
    (∀ id e, crowdedGrid.registry.live.get? id = some e → Routed e.proxy) ∧
      ∃ p q, Rivals crowdedCallers crowdedGrid.registry p q ∧
        (∃ p' ∈ (crowdedGrid.registry.sweep countingSetting crowdedCallers
          crowdedGrid.memory).registry.pending, p'.request = p.request) ∧
        ∃ x ∈ (crowdedGrid.registry.sweep countingSetting crowdedCallers
          crowdedGrid.memory).bound, x.requestId = q.request.id :=
  ⟨routed_crowdedGrid, chromeRequest 2 1, chromeRequest 3 2, rivals_crowdedGrid,
    overtaken_crowdedGrid⟩

end BrowserGrid.Registry
