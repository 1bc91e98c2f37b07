import BrowserGrid.Proofs.Registry.Places
import BrowserGrid.Proofs.Registry.Sections

/-!
# The visits of a pass, one by one

What the visit of a request does follows from whether its caller is there and from what the search
for a slot finds (`Sweep.Decided`).  A pass over the queue goes through the requests in the order of
service; `Reaches` is the moment at which it comes to one of them, also if a matcher breaks later.

* `bound_reached`, `toProvision_reached`: whatever a pass binds, and whatever it asks a node for, it
  does so at the moment at which it comes to the request, by what the search found then.
* `sweep_holds`: a property of the proxies and the bound sessions that survives each session on a
  free slot survives a pass.
* `sweep_unbroken`: a pass over proxies whose matchers answer (`Decides`) is not broken off.
-/

namespace BrowserGrid.Registry

variable {ω : Type} {s : Setting ω} {callers : Callers}

/-! ### What a visit is decided by -/

namespace LiveProxies

/-- The search finds a free place. -/
theorem exists_place_of_firstFree {live : LiveProxies ω} {requested offered : Capabilities}
    {memory memory' : ω} {slot : SlotId}
    (h : firstFree live requested memory = (.found slot offered, memory')) :
    ∃ place ∈ live.places, place.isFree ∧ place.slot = slot ∧ place.offered = offered := by
  obtain ⟨f, hf, hslot, hoffered⟩ := mem_of_searchList h
  rw [freeSlots_eq] at hf
  obtain ⟨place, hplace, rfl⟩ := List.mem_map.1 hf
  obtain ⟨hmem, hfree⟩ := List.mem_filter.1 hplace
  exact ⟨place, hmem, hfree, hslot, hoffered⟩

end LiveProxies

namespace Sweep

/-- The sweep after the visit of `p`, by whether its caller is present and by the result of
`firstFree` for it. -/
inductive Decided (s : Setting ω) (callers : Callers) (w : Sweep ω) (p : PendingRequest) :
    Sweep ω → Prop where
  /-- The caller is gone. -/
  | absent (habsent : callers.present p.request.id = false) :
    Decided s callers w p { w with discarded := w.discarded ++ [p.request.id] }
  /-- A slot is found, and the request is bound to it. -/
  | served (hpresent : callers.present p.request.id = true) {slot : SlotId}
    {offered : Capabilities} {memory : ω}
    (hfound : w.live.firstFree p.request.capabilities w.memory = (.found slot offered, memory)) :
    Decided s callers w p
      (deliver callers
        (w.withSession memory (w.live.hold slot (nextSession s w p slot offered).key)
          (nextSession s w p slot offered))
        (nextSession s w p slot offered))
  /-- No slot is found. -/
  | waits (hpresent : callers.present p.request.id = true) {memory : ω}
    (hnothing : w.live.firstFree p.request.capabilities w.memory = (.nothing, memory)) :
    Decided s callers w p (keep s { w with memory } p)

theorem decided_of_visit {w w' : Sweep ω} {p : PendingRequest}
    (h : visit s callers w p = .ok w') : Decided s callers w p w' := by
  unfold visit at h
  split at h
  · rename_i habsent
    cases h
    exact .absent (by simpa using habsent)
  · rename_i hpresent
    replace hpresent : callers.present p.request.id = true := by simpa using hpresent
    split at h
    · rename_i slot offered memory hfound
      cases h
      unfold bind
      dsimp only
      rw [LiveProxies.occupy?_of_firstFree hfound]
      exact .served hpresent hfound
    · rename_i memory hnothing
      cases h
      exact .waits hpresent hnothing
    · cases h

/-! ### What staying in the queue leaves alone -/

section keep

variable (w : Sweep ω) (p : PendingRequest)

@[simp] theorem keep_live : (keep s w p).live = w.live := by
  unfold keep; split <;> rfl

@[simp] theorem keep_memory : (keep s w p).memory = w.memory := by
  unfold keep; split <;> rfl

@[simp] theorem keep_bound : (keep s w p).bound = w.bound := by
  unfold keep; split <;> rfl

@[simp] theorem keep_discarded : (keep s w p).discarded = w.discarded := by
  unfold keep; split <;> rfl

@[simp] theorem deliver_toProvision (x : Session) :
    (deliver callers w x).toProvision = w.toProvision := by
  unfold deliver; split <;> rfl

/-- A request that stays is noted for a node, or nothing is noted with it. -/
theorem keep_cases :
    (p.provisioning = false ∧ s.canProvision p.request.capabilities w.memory = true ∧
        (keep s w p).remaining = w.remaining ++ [{ p with provisioning := true }] ∧
        (keep s w p).toProvision = w.toProvision ++ [p.request]) ∨
      (keep s w p).remaining = w.remaining ++ [p] ∧ (keep s w p).toProvision = w.toProvision := by
  unfold keep
  split
  · rename_i h
    simp only [Bool.and_eq_true, Bool.not_eq_true'] at h
    exact .inl ⟨h.1, h.2, rfl, rfl⟩
  · exact .inr ⟨rfl, rfl⟩

end keep

/-- A visit leaves every place with its proxy. -/
theorem Decided.exists_place {w w' : Sweep ω} {p : PendingRequest} (h : Decided s callers w p w')
    {q : Place ω} (hq : q ∈ w'.live.places) :
    ∃ place ∈ w.live.places, place.slot = q.slot ∧ place.proxy = q.proxy := by
  cases h with
  | absent => exact ⟨q, hq, rfl, rfl⟩
  | waits =>
    rw [keep_live] at hq
    exact ⟨q, hq, rfl, rfl⟩
  | served =>
    rw [deliver_live, withSession, LiveProxies.places_hold] at hq
    obtain ⟨place, hplace, rfl⟩ := List.mem_map.1 hq
    exact ⟨place, hplace, rfl, rfl⟩

/-! ### One visit after the other -/

/-- What the visits preserve holds after all of them; the induction follows the queue. -/
theorem visitAll_preserves {P : Sweep ω → Prop}
    (hvisit : ∀ {v v' : Sweep ω} {p : PendingRequest}, Decided s callers v p v' → P v → P v')
    {w w' : Sweep ω} {queue : List PendingRequest} (h : visitAll s callers w queue = .ok w')
    (hw : P w) : P w' := by
  induction queue generalizing w with
  | nil =>
    cases h
    exact hw
  | cons p rest ih =>
    unfold visitAll at h
    split at h
    · rename_i hp
      exact ih h (hvisit (decided_of_visit hp) hw)
    · cases h

/-- What becomes true in the course of some visits becomes true with one of them. -/
theorem exists_turn {P : Sweep ω → Prop} {w w' : Sweep ω} {queue : List PendingRequest}
    (h : visitAll s callers w queue = .ok w') (hw : ¬P w) (hw' : P w') :
    ∃ seen p rest v v', queue = seen ++ p :: rest ∧ visitAll s callers w seen = .ok v ∧
      Decided s callers v p v' ∧ ¬P v ∧ P v' := by
  induction queue generalizing w with
  | nil =>
    cases h
    exact absurd hw' hw
  | cons p rest ih =>
    unfold visitAll at h
    split at h
    · rename_i v hp
      by_cases hv : P v
      · exact ⟨[], p, rest, w, v, rfl, rfl, decided_of_visit hp, hw, hv⟩
      · obtain ⟨seen, q, later, u, u', rfl, hseen, hturn⟩ := ih h hv
        exact ⟨p :: seen, q, later, u, u', rfl, by rw [visitAll, hp]; exact hseen, hturn⟩
    · cases h

end Sweep

/-! ### Matchers that answer -/

/-- The matcher of a proxy takes or refuses every request, whatever is offered and remembered. -/
def Decides (p : Proxy ω) : Prop :=
  ∀ offered requested memory, (p.judge offered requested memory).1 ≠ .broken

namespace LiveProxies

theorem searchList_ne_broken {requested : Capabilities} {free : List (FreeSlot ω)}
    (h : ∀ f ∈ free, ∀ memory, (f.judge f.offered requested memory).1 ≠ .broken) (memory : ω) :
    (searchList requested free memory).1 ≠ .broken := by
  induction free generalizing memory with
  | nil => exact Search.noConfusion
  | cons f free ih =>
    unfold searchList
    split
    · exact Search.noConfusion
    · exact ih (fun g hg => h g (List.mem_cons_of_mem f hg)) _
    · rename_i hbroken
      exact absurd (congrArg Prod.fst hbroken) (h f List.mem_cons_self memory)

theorem firstFree_ne_broken {live : LiveProxies ω}
    (h : ∀ place ∈ live.places, Decides place.proxy) (requested : Capabilities) (memory : ω) :
    (live.firstFree requested memory).1 ≠ .broken := by
  rw [firstFree, freeSlots_eq]
  refine searchList_ne_broken (fun f hf memory => ?_) memory
  obtain ⟨place, hplace, rfl⟩ := List.mem_map.1 hf
  exact h place (List.mem_of_mem_filter hplace) place.offered requested memory

end LiveProxies

namespace Sweep

theorem visit_isOk (s : Setting ω) (callers : Callers) {w : Sweep ω}
    (h : ∀ place ∈ w.live.places, Decides place.proxy) (p : PendingRequest) :
    ∃ w', visit s callers w p = .ok w' := by
  unfold visit
  split
  · exact ⟨_, rfl⟩
  · split
    · exact ⟨_, rfl⟩
    · exact ⟨_, rfl⟩
    · rename_i hbroken
      exact absurd (congrArg Prod.fst hbroken)
        (LiveProxies.firstFree_ne_broken h p.request.capabilities w.memory)

/-- If the matchers answer, every request is visited; the induction follows the queue. -/
theorem visitAll_isOk (s : Setting ω) (callers : Callers) {w : Sweep ω}
    (h : ∀ place ∈ w.live.places, Decides place.proxy) (queue : List PendingRequest) :
    ∃ w', visitAll s callers w queue = .ok w' := by
  induction queue generalizing w with
  | nil => exact ⟨w, rfl⟩
  | cons p rest ih =>
    obtain ⟨v, hv⟩ := visit_isOk s callers h p
    rw [visitAll, hv]
    refine ih fun q hq => ?_
    obtain ⟨place, hplace, -, hproxy⟩ := (decided_of_visit hv).exists_place hq
    exact hproxy ▸ h place hplace

end Sweep

/-- A pass over proxies whose matchers answer is not broken off. -/
theorem sweep_unbroken (s : Setting ω) (callers : Callers) {r : Registry ω}
    (h : ∀ place ∈ r.live.places, Decides place.proxy) (memory : ω) :
    (r.sweep s callers memory).broken = false := by
  cases hstopped : r.stopped with
  | true => rw [sweep_of_stopped hstopped]
  | false =>
    obtain ⟨w, hw⟩ := Sweep.visitAll_isOk s callers (w := sweepStart r memory) h
      (r.pending.mergeSort before)
    rw [sweep_of_visitAll hstopped hw]

/-! ### A whole pass -/

/-- A pass that has come through the first part of its queue, in the order of service. -/
structure Walk (s : Setting ω) (callers : Callers) (r : Registry ω) (memory : ω)
    (seen unseen : List PendingRequest) (w : Sweep ω) (result : SweepResult ω) : Prop where
  queue : r.pending.mergeSort before = seen ++ unseen
  visited : (sweepStart r memory).visitAll s callers seen = .ok w
  live_eq : result.registry.live = w.live
  bound_eq : result.bound = w.bound
  discarded_eq : result.discarded = w.discarded
  /-- Unless a matcher broke, this is the whole queue. -/
  whole : result.broken = false →
    unseen = [] ∧ result.registry.pending = w.remaining ∧ result.toProvision = w.toProvision
  /-- A broken pass leaves no queue and asks for no node. -/
  cut : result.broken = true → result.registry.pending = [] ∧ result.toProvision = []

theorem sweep_walk (s : Setting ω) (callers : Callers) {r : Registry ω} (h : r.stopped = false)
    (memory : ω) :
    ∃ seen unseen w, Walk s callers r memory seen unseen w (r.sweep s callers memory) := by
  rw [sweep, if_neg (by simp [h])]
  dsimp only
  split
  · rename_i w hw
    refine ⟨r.pending.mergeSort before, [], w, ?_⟩
    exact {
      queue := (List.append_nil _).symm
      visited := hw
      live_eq := rfl
      bound_eq := rfl
      discarded_eq := rfl
      whole := fun _ => ⟨rfl, rfl, rfl⟩
      cut := fun h => absurd h Bool.false_ne_true }
  · rename_i w lost hw
    obtain ⟨seen, unseen, w', memory', hqueue, hseen, rfl, -⟩ := Sweep.visitAll_eq_error hw
    refine ⟨seen, unseen, w', ?_⟩
    exact {
      queue := hqueue
      visited := hseen
      live_eq := rfl
      bound_eq := rfl
      discarded_eq := rfl
      whole := fun h => absurd h.symm Bool.false_ne_true
      cut := fun _ => ⟨rfl, rfl⟩ }

/-- A pass comes to a request, and has come this far by then. -/
def Reaches (s : Setting ω) (callers : Callers) (r : Registry ω) (memory : ω)
    (p : PendingRequest) (v : Sweep ω) : Prop :=
  ∃ seen rest, r.pending.mergeSort before = seen ++ p :: rest ∧
    (sweepStart r memory).visitAll s callers seen = .ok v

theorem Reaches.mem_pending {r : Registry ω} {memory : ω} {p : PendingRequest} {v : Sweep ω}
    (h : Reaches s callers r memory p v) : p ∈ r.pending := by
  obtain ⟨seen, rest, hqueue, -⟩ := h
  have hperm : (r.pending.mergeSort before).Perm r.pending := List.mergeSort_perm ..
  rw [hqueue] at hperm
  exact hperm.subset (List.mem_append_right _ List.mem_cons_self)

/-- What becomes true in the course of a pass becomes true when it comes to some request. -/
theorem Walk.exists_reaches {r : Registry ω} {memory : ω} {seen unseen : List PendingRequest}
    {w : Sweep ω} {result : SweepResult ω} (h : Walk s callers r memory seen unseen w result)
    {P : Sweep ω → Prop} (hstart : ¬P (sweepStart r memory)) (hend : P w) :
    ∃ p v v', Reaches s callers r memory p v ∧ Sweep.Decided s callers v p v' ∧ ¬P v ∧ P v' := by
  obtain ⟨before, p, rest, v, v', rfl, hv, hturn⟩ := Sweep.exists_turn h.visited hstart hend
  exact ⟨p, v, v', ⟨before, rest ++ unseen, by rw [h.queue, List.append_assoc]; rfl, hv⟩, hturn⟩

/-- A session is bound when the pass comes to its request, on the slot that the search finds. -/
theorem bound_reached {r : Registry ω} {memory : ω} {x : Session}
    (hx : x ∈ (r.sweep s callers memory).bound) :
    ∃ p v slot offered memory', Reaches s callers r memory p v ∧
      callers.present p.request.id = true ∧
      v.live.firstFree p.request.capabilities v.memory = (.found slot offered, memory') ∧
      x = v.nextSession s p slot offered := by
  cases hstopped : r.stopped with
  | true =>
    rw [sweep_of_stopped hstopped] at hx
    exact absurd hx List.not_mem_nil
  | false =>
    obtain ⟨seen, unseen, w, hwalk⟩ := sweep_walk s callers hstopped memory
    rw [hwalk.bound_eq] at hx
    obtain ⟨p, v, v', hreaches, hdecided, hv, hv'⟩ :=
      hwalk.exists_reaches (P := (x ∈ ·.bound)) List.not_mem_nil hx
    cases hdecided with
    | absent => exact absurd hv' hv
    | waits =>
      rw [Sweep.keep_bound] at hv'
      exact absurd hv' hv
    | served hpresent hfound =>
      rw [Sweep.deliver_bound] at hv'
      have hlast := List.mem_singleton.1 ((List.mem_append.1 hv').resolve_left hv)
      exact ⟨p, v, _, _, _, hreaches, hpresent, hfound, hlast⟩

/-- A node is asked for when the pass comes to a request that no slot takes and that none has been
asked for. -/
theorem toProvision_reached {r : Registry ω} {memory : ω} {request : Request}
    (h : request ∈ (r.sweep s callers memory).toProvision) :
    r.stopped = false ∧ ∃ p v memory', Reaches s callers r memory p v ∧ p.request = request ∧
      p.provisioning = false ∧ callers.present request.id = true ∧
      v.live.firstFree request.capabilities v.memory = (.nothing, memory') ∧
      s.canProvision request.capabilities memory' = true := by
  cases hstopped : r.stopped with
  | true =>
    rw [sweep_of_stopped hstopped] at h
    exact absurd h List.not_mem_nil
  | false =>
    obtain ⟨seen, unseen, w, hwalk⟩ := sweep_walk s callers hstopped memory
    cases hbroken : (r.sweep s callers memory).broken with
    | true =>
      rw [(hwalk.cut hbroken).2] at h
      exact absurd h List.not_mem_nil
    | false =>
      rw [(hwalk.whole hbroken).2.2] at h
      obtain ⟨p, v, v', hreaches, hdecided, hv, hv'⟩ :=
        hwalk.exists_reaches (P := (request ∈ ·.toProvision)) List.not_mem_nil h
      -- of the three ways a visit can go, only one without a slot asks for a node
      cases hdecided with
      | absent => exact absurd hv' hv
      | served =>
        rw [Sweep.deliver_toProvision] at hv'
        exact absurd hv' hv
      | waits hpresent hnothing =>
        rcases Sweep.keep_cases (s := s) { v with memory := _ } p with
          ⟨hunflagged, hable, -, hadded⟩ | ⟨-, hsame⟩
        · rw [hadded] at hv'
          obtain rfl := List.mem_singleton.1 ((List.mem_append.1 hv').resolve_left hv)
          exact ⟨rfl, p, v, _, hreaches, rfl, hunflagged, hpresent, hnothing, hable⟩
        · rw [hsame] at hv'
          exact absurd hv' hv

/-- What survives each session that is put on a free slot, with what the slot offers, survives a
pass. -/
theorem sweep_holds_offered {P : LiveProxies ω → List Session → Prop}
    (hhold : ∀ {live : LiveProxies ω} {bound : List Session} {place : Place ω} {x : Session},
      place ∈ live.places → place.isFree → x.slot = place.slot → x.offered = place.offered →
      P live bound → P (live.hold place.slot x.key) (bound ++ [x]))
    {r : Registry ω} (hr : P r.live []) (memory : ω) :
    P (r.sweep s callers memory).registry.live (r.sweep s callers memory).bound := by
  cases hstopped : r.stopped with
  | true =>
    rw [sweep_of_stopped hstopped]
    exact hr
  | false =>
    obtain ⟨seen, unseen, w, hwalk⟩ := sweep_walk s callers hstopped memory
    rw [hwalk.live_eq, hwalk.bound_eq]
    refine Sweep.visitAll_preserves (P := fun v => P v.live v.bound) ?_ hwalk.visited hr
    intro v v' p hdecided hv
    cases hdecided with
    | absent => exact hv
    | waits =>
      rw [Sweep.keep_live, Sweep.keep_bound]
      exact hv
    | served _ hfound =>
      obtain ⟨place, hplace, hfree, rfl, rfl⟩ := LiveProxies.exists_place_of_firstFree hfound
      rw [Sweep.deliver_live, Sweep.deliver_bound]
      exact hhold hplace hfree rfl rfl hv

/-- What survives each session that is put on a free slot survives a pass. -/
theorem sweep_holds {P : LiveProxies ω → List Session → Prop}
    (hhold : ∀ {live : LiveProxies ω} {bound : List Session} {place : Place ω} {x : Session},
      place ∈ live.places → place.isFree → x.slot = place.slot → P live bound →
      P (live.hold place.slot x.key) (bound ++ [x]))
    {r : Registry ω} (hr : P r.live []) (memory : ω) :
    P (r.sweep s callers memory).registry.live (r.sweep s callers memory).bound :=
  sweep_holds_offered (fun hplace hfree hslot _ => hhold hplace hfree hslot) hr memory

end BrowserGrid.Registry
