import BrowserGrid.Proofs.Capability.Stability
import BrowserGrid.Proofs.Registry.Lifecycle
import BrowserGrid.Proofs.Registry.Order
import BrowserGrid.Proofs.Registry.SingleUse

/-!
# What matchers rewrite stays with them

A matcher moves the custom keys of the maps that it is asked about, and it is asked about the maps
that the slots store and that requests were made with.  What it makes of them goes no further: after
every run the slots store what their proxies offered when they were registered, a session offers
what its slot did (`System.Furnished`), and it was requested with the map that was submitted for it
(`System.requested_run`).  The sessions that are seen later are the ones that were bound, up to what
happened to them since (`System.shown_run`).
-/

namespace BrowserGrid.Registry

variable {ω : Type} {s : Setting ω} {callers : Callers}

/-! ### What the slots store -/

namespace Entry

/-- The slots store what the proxy offered when it was registered. -/
def Stores (e : Entry ω) : Prop := e.slots.map (·.capabilities) = e.proxy.slots

theorem stores_fresh (p : Proxy ω) : (fresh p).Stores := by
  show (p.slots.map _).map _ = p.slots
  rw [List.map_map]
  exact List.map_id _

theorem Stores.setSlot {e : Entry ω} (h : e.Stores) (index : Nat) (session : Option SessionKey) :
    (e.setSlot index session).Stores := by
  have hkept : (e.slots.modify index ({ · with session })).map (·.capabilities) =
      e.slots.map (·.capabilities) := by
    refine List.ext_getElem? fun i => ?_
    rw [List.getElem?_map, List.getElem?_map, List.getElem?_modify]
    cases e.slots[i]? with
    | none => rfl
    | some slot => by_cases hindex : index = i <;> simp [hindex]
  exact hkept.trans h

theorem Stores.hold {e : Entry ω} (h : e.Stores) (index : Nat) (key : SessionKey) :
    (e.hold index key).Stores :=
  h.setSlot index (some key)

end Entry

namespace LiveProxies

/-- All slots store what their proxies offered when they were registered. -/
def Stores (live : LiveProxies ω) : Prop := ∀ id e, live.get? id = some e → e.Stores

variable {live : LiveProxies ω}

theorem stores_empty : Stores (KeyMap.empty : LiveProxies ω) := by
  intro id e he
  rw [KeyMap.get?_empty] at he
  cases he

theorem Stores.insert (h : live.Stores) (id : ProxyId) {e : Entry ω} (he : e.Stores) :
    Stores (live.insert id e) := by
  intro other e' he'
  rw [KeyMap.get?_insert] at he'
  split at he'
  · obtain rfl := Option.some.inj he'
    exact he
  · exact h other e' he'

theorem Stores.erase (h : live.Stores) (id : ProxyId) : Stores (live.erase id) := by
  intro other e he
  rw [KeyMap.get?_erase] at he
  split at he
  · cases he
  · exact h other e he

theorem Stores.vacate (h : live.Stores) (slot : SlotId) (key : SessionKey) :
    (live.vacate slot key).Stores := by
  unfold LiveProxies.vacate
  split
  · rename_i e he
    split
    · exact h.insert slot.proxy ((h slot.proxy e he).setSlot slot.index none)
    · exact h
  · exact h

theorem Stores.retire (h : live.Stores) (id : ProxyId) : (live.retire id).2.Stores := by
  unfold LiveProxies.retire
  split
  · split
    · exact h.erase id
    · exact h
  · exact h

theorem Stores.hold (h : live.Stores) {place : Place ω} (hplace : place ∈ live.places)
    (hfree : place.isFree) (key : SessionKey) : (live.hold place.slot key).Stores := by
  obtain ⟨e, he, -, -, -, hhold⟩ := exists_entry_of_isFree hplace hfree
  rw [hhold]
  exact h.insert place.slot.proxy ((h _ e he).hold place.slot.index key)

/-- What a place offers is what its proxy offered for it when it was registered. -/
theorem Stores.offered (h : live.Stores) {place : Place ω} (hplace : place ∈ live.places) :
    ∃ e, live.get? place.slot.proxy = some e ∧
      e.proxy.slots[place.slot.index]? = some place.offered := by
  obtain ⟨e, slot, he, hslot, hplace⟩ := mem_places.1 hplace
  refine ⟨e, he, ?_⟩
  rw [← h _ e he, List.getElem?_map, hslot, hplace]
  rfl

end LiveProxies

theorem Section.stores {r r' : Registry ω} {freed : Option ProxyId} {news : List News}
    (h : Section s callers r freed r' news) (hr : r.live.Stores) : r'.live.Stores := by
  cases h with
  | idle => exact hr
  | released h =>
    obtain ⟨x, -, -, rfl⟩ := release_eq h
    exact (hr.vacate x.slot _).retire x.slot.proxy
  | removed h =>
    obtain ⟨e, -, -, rfl⟩ := removeProxy_eq h
    exact hr.erase _
  | staged h =>
    obtain ⟨-, rfl⟩ := eq_of_removeProxy_none (stage_eq h).2.2
    exact hr
  | replaced h =>
    obtain ⟨e, -, -, rfl⟩ := removeProxy_eq (stage_eq h).2.2
    exact hr.erase _
  | promoted h =>
    obtain ⟨-, rfl⟩ := promote_eq h
    show LiveProxies.Stores (if _ then _ else _)
    split
    · exact hr.insert _ (Entry.stores_fresh _)
    · exact hr
  | swept memory =>
    exact sweep_holds (P := fun live _ => live.Stores)
      (fun hplace hfree _ hlive => hlive.hold hplace hfree _) hr memory
  | stopped h =>
    obtain ⟨-, -, -, rfl⟩ := stop_eq h
    exact LiveProxies.stores_empty

namespace System

variable {σ τ : System ω}

theorem Moved.stores (h : Moved s σ τ) (hσ : σ.registry.live.Stores) :
    τ.registry.live.Stores := by
  cases h.involved with
  | apart h =>
    rw [h.live]
    exact hσ
  | abandoned _ _ hregistry =>
    rw [hregistry]
    exact hσ
  | begun ticket op callers hregistry =>
    rw [hregistry]
    exact (start_section callers σ.registry σ.memory op).stores hσ
  | resumed c _ prepared hregistry =>
    rw [hregistry]
    exact (resume_section s everybody σ.registry σ.memory prepared c.call).stores hσ

end System

/-! ### What the sessions offer -/

/-- The sessions of a registration offer what the proxy offered for their slots. -/
def Tenure.Offers (t : Tenure ω) : Prop :=
  ∀ x ∈ t.sessions, t.proxy.slots[x.slot.index]? = some x.offered

/-- A session on a slot of the proxy that is registered. -/
theorem Tenure.offers_host {id : ProxyId} {x : Session} {tenures : List (Tenure ω)}
    (h : ∀ t ∈ tenures, t.Offers)
    (hx : x.slot.proxy = id → ∀ t earlier, tenures = t :: earlier →
      t.proxy.slots[x.slot.index]? = some x.offered) :
    ∀ t ∈ Tenure.host id x tenures, t.Offers := by
  cases tenures with
  | nil => exact h
  | cons latest earlier =>
    unfold Tenure.host
    dsimp only
    split
    · rename_i hid
      intro t ht
      rcases List.mem_cons.1 ht with rfl | ht
      · intro y hy
        rcases List.mem_append.1 hy with hy | hy
        · exact h latest List.mem_cons_self y hy
        · obtain rfl := List.mem_singleton.1 hy
          exact hx hid latest earlier rfl
      · exact h t (List.mem_cons_of_mem _ ht)
    · exact h

theorem sweep_offers {r : Registry ω} {tenures : ProxyId → List (Tenure ω)}
    {created : List Session} (hsparing : Sparing r.live tenures created) (hstores : r.live.Stores)
    (hoffers : ∀ id, ∀ t ∈ tenures id, t.Offers) (memory : ω) (id : ProxyId) :
    ∀ t ∈ (r.sweep s callers memory).bound.foldl (fun ts x => Tenure.host id x ts) (tenures id),
      t.Offers := by
  refine (sweep_holds_offered
    (P := fun live bound => live.Stores ∧
      Sparing live (fun id => bound.foldl (fun ts x => Tenure.host id x ts) (tenures id))
        (created ++ bound) ∧
      ∀ id, ∀ t ∈ bound.foldl (fun ts x => Tenure.host id x ts) (tenures id), t.Offers)
    ?_ ⟨hstores, by rw [List.append_nil]; exact hsparing, hoffers⟩ memory).2.2 id
  intro live bound place x hplace hfree hslot hoffered hlive
  obtain ⟨hstores, hsparing, hoffers⟩ := hlive
  obtain ⟨e, he, hslots⟩ := hstores.offered hplace
  simp only [List.foldl_append, List.foldl_cons, List.foldl_nil, ← List.append_assoc]
  refine ⟨hstores.hold hplace hfree x.key, hsparing.hold hplace hfree hslot, fun id => ?_⟩
  refine Tenure.offers_host (hoffers id) fun hid t earlier htenures => ?_
  -- the registration that the session is counted in is that of the proxy with the place
  rw [← hid, hslot] at htenures
  obtain ⟨sessions, earlier', hcurrent, -⟩ := (hsparing.hosted place.slot.proxy).current e he
  rw [htenures] at hcurrent
  obtain ⟨rfl, -⟩ := List.cons.inj hcurrent
  rw [hslot, hoffered]
  exact hslots

namespace System

variable {σ τ : System ω}

theorem Rehoused.offers (h : Rehoused s σ τ)
    (hsparing : Sparing σ.registry.live σ.tenures σ.created) (hstores : σ.registry.live.Stores)
    (hσ : ∀ id, ∀ t ∈ σ.tenures id, t.Offers) : ∀ id, ∀ t ∈ τ.tenures id, t.Offers := by
  cases h with
  | swept _ htenures =>
    intro id
    rw [htenures]
    exact sweep_offers hsparing hstores hσ _ id
  | registered _ _ _ htenures =>
    intro id t ht
    rw [htenures] at ht
    dsimp only at ht
    split at ht
    · rcases List.mem_cons.1 ht with rfl | ht
      · exact fun x hx => absurd hx List.not_mem_nil
      · exact hσ id t ht
    · exact hσ id t ht
  | reduced _ htenures =>
    rw [htenures]
    exact hσ

/-- The proxies of `σ` are `Guarded` and store what they offered, and the registrations of every
identity (`tenures`) are `Sparing` and offer their sessions what their proxies offered. -/
structure Furnished (σ : System ω) : Prop where
  guarded : σ.Guarded
  stores : σ.registry.live.Stores
  sparing : Sparing σ.registry.live σ.tenures σ.created
  offers : ∀ id, ∀ t ∈ σ.tenures id, t.Offers

theorem furnished_run (memory : ω) (actions : List (Action ω)) :
    ((initial memory).run s actions).Furnished := by
  refine run_induction (fun σ a hσ => ?_) ⟨.initial memory, LiveProxies.stores_empty,
    sparing_run memory [] (s := s) rfl, fun _ _ ht => absurd ht List.not_mem_nil⟩ actions
  have hrehoused := (step_moved (s := s) σ a).rehoused hσ.guarded hσ.sparing.onceEach
  exact
    { guarded := hσ.guarded.of_moved (step_moved σ a)
      stores := (step_moved σ a).stores hσ.stores
      sparing := hrehoused.sparing hσ.sparing
      offers := hrehoused.offers hσ.sparing hσ.stores hσ.offers }

/-! ### What the sessions were requested with -/

/-- Some action of a run has submitted a request, which was admitted under an identity. -/
def Admits (s : Setting ω) (memory : ω) (actions : List (Action ω)) (id : RequestId)
    (requested : Capabilities) : Prop :=
  ∃ before after, actions = before ++ .submit requested :: after ∧
    (((initial memory).run s before).registry.submit s requested
      ((initial memory).run s before).memory).1 = .ok id

theorem Admits.append {memory : ω} {actions : List (Action ω)} {id : RequestId}
    {requested : Capabilities} (h : Admits s memory actions id requested)
    (more : List (Action ω)) : Admits s memory (actions ++ more) id requested := by
  obtain ⟨before, after, rfl, hadmitted⟩ := h
  exact ⟨before, after ++ more, by rw [List.append_assoc]; rfl, hadmitted⟩

/-- Only a submission adds to the queue. -/
theorem step_requests (σ : System ω) {a : Action ω} (ha : ∀ requested, a ≠ .submit requested) :
    (step s σ a).registry.pending.map (·.request) ⊆ σ.registry.pending.map (·.request) := by
  cases a with
  | submit requested => exact absurd rfl (ha requested)
  | withdraw id => exact (List.filter_sublist.map _).subset
  | activate key externalKey =>
    show (σ.registry.activate key externalKey).2.pending.map _ ⊆ _
    rcases activate_cases σ.registry key externalKey with h | ⟨_, _, h⟩ <;> rw [h] <;>
      exact List.Subset.refl _
  | provisioningFailed id =>
    show (σ.registry.provisioningFailed id).pending.map _ ⊆ _
    rw [requests_provisioningFailed]
    exact List.Subset.refl _
  | begin op d => exact (start_section _ σ.registry σ.memory op).queue.1.subset
  | resume ticket prepared =>
    rw [step, afterResume]
    split
    · rename_i c _
      exact (resume_section s everybody σ.registry σ.memory prepared c.call).queue.1.subset
    · exact List.Subset.refl _
  | abandon ticket =>
    rw [step, afterAbandon]
    split <;> exact List.Subset.refl _
  | wait id timeout =>
    rw [step, afterWait]
    split <;> exact List.Subset.refl _
  | receive id =>
    rw [step, afterReceive]
    split
    · split <;> exact List.Subset.refl _
    · exact List.Subset.refl _
  | expire id =>
    rw [step, afterExpire]
    split <;> exact List.Subset.refl _
  | giveUp id =>
    rw [step, afterGiveUp]
    split
    · dsimp only
      split <;> exact (List.filter_sublist.map _).subset
    · exact List.Subset.refl _
  | depart id => exact List.Subset.refl _
  | remember memory => exact List.Subset.refl _

/-- A session that is new was bound to a request of the queue. -/
theorem Rehoused.origin (h : Rehoused s σ τ) {x : Session} (hx : x ∈ τ.created) :
    x ∈ σ.created ∨ ∃ request ∈ σ.registry.pending.map (·.request),
      x.requestId = request.id ∧ x.requested = request.capabilities := by
  cases h with
  | swept _ _ hcreated =>
    rw [hcreated] at hx
    refine (List.mem_append.1 hx).imp_right fun hx => ?_
    obtain ⟨p, v, slot, offered, _, hreaches, -, -, rfl⟩ := bound_reached hx
    exact ⟨p.request, List.mem_map_of_mem hreaches.mem_pending, rfl, rfl⟩
  | registered _ _ _ _ hcreated | reduced _ _ hcreated => exact .inl (hcreated ▸ hx)

/-- Every request in the queue, and every session, goes back to a submission of its capabilities. -/
structure Requested (s : Setting ω) (memory : ω) (actions : List (Action ω)) (σ : System ω) :
    Prop where
  queued : ∀ request ∈ σ.registry.pending.map (·.request),
    Admits s memory actions request.id request.capabilities
  created : ∀ x ∈ σ.created, Admits s memory actions x.requestId x.requested

theorem Requested.submit {memory : ω} {actions : List (Action ω)} {requested : Capabilities}
    (hσ : (initial memory).run s actions = σ) (h : Requested s memory actions σ) :
    Requested s memory (actions ++ [.submit requested]) (σ.afterSubmit s requested) := by
  have hlater : ∀ {id other}, Admits s memory actions id other →
      Admits s memory (actions ++ [.submit requested]) id other := fun h => h.append _
  have hcreated : (σ.afterSubmit s requested).created = σ.created := by
    rw [System.created, afterSubmit, List.filterMap_append]
    exact List.append_nil _
  constructor
  · rcases submit_cases s σ.registry requested σ.memory with ⟨error, _, h'⟩ | ⟨_, -, h'⟩
    · intro request hrequest
      rw [afterSubmit, h'] at hrequest
      exact hlater (h.queued request hrequest)
    · intro request hrequest
      rw [afterSubmit, h'] at hrequest
      rcases List.mem_append.1 (List.map_append ▸ hrequest) with hrequest | hrequest
      · exact hlater (h.queued request hrequest)
      · obtain rfl := List.mem_singleton.1 hrequest
        refine ⟨actions, [], rfl, ?_⟩
        show (((initial memory).run s actions).registry.submit s requested _).1 = _
        rw [hσ, h']
  · rw [hcreated]
    exact fun x hx => hlater (h.created x hx)

theorem requested_run (memory : ω) (actions : List (Action ω)) :
    Requested s memory actions ((initial memory).run s actions) := by
  induction actions using List.reverseRecOn with
  | nil => exact ⟨fun _ h => absurd h List.not_mem_nil, fun _ h => absurd h List.not_mem_nil⟩
  | append_singleton actions a ih =>
    obtain ⟨σ, hσ⟩ : ∃ σ, (initial memory).run s actions = σ := ⟨_, rfl⟩
    rw [run_append, hσ, run_cons, run_nil]
    rw [hσ] at ih
    by_cases ha : ∃ requested, a = .submit requested
    · obtain ⟨requested, rfl⟩ := ha
      exact ih.submit hσ
    · have hfurnished : σ.Furnished := hσ ▸ furnished_run memory actions
      have hrehoused :=
        (step_moved (s := s) σ a).rehoused hfurnished.guarded hfurnished.sparing.onceEach
      constructor
      · intro request hrequest
        refine (ih.queued request ?_).append [a]
        exact step_requests σ (fun requested heq => ha ⟨requested, heq⟩) hrequest
      · intro x hx
        rcases hrehoused.origin hx with hx | ⟨request, hrequest, hid, hcapabilities⟩
        · exact (ih.created x hx).append [a]
        · rw [hid, hcapabilities]
          exact (ih.queued request hrequest).append [a]

theorem admitted_afterSubmit {requested : Capabilities} {id : RequestId}
    (h : (σ.registry.submit s requested σ.memory).1 = .ok id) :
    (σ.afterSubmit s requested).admitted = σ.admitted ++ [id] := by
  have hhistory : (σ.afterSubmit s requested).history =
      σ.history ++ [.submitted (σ.registry.submit s requested σ.memory).1] := rfl
  rw [admitted_append hhistory, h]
  rfl

theorem mem_admitted_run {id : RequestId} (h : id ∈ σ.admitted) (actions : List (Action ω)) :
    id ∈ (σ.run s actions).admitted := by
  obtain ⟨events, hhistory⟩ := exists_history_run (s := s) σ actions
  rw [admitted_append hhistory]
  exact List.mem_append_left _ h

/-- An identity is not given again to what is submitted later. -/
theorem not_admits_again {memory : ω} {before mid after : List (Action ω)} {id : RequestId}
    {requested requested' : Capabilities}
    (hfresh : ((initial memory).run s
      (before ++ .submit requested :: mid ++ .submit requested' :: after)).FreshRequests)
    (h : (((initial memory).run s before).registry.submit s requested
      ((initial memory).run s before).memory).1 = .ok id) :
    (((initial memory).run s (before ++ .submit requested :: mid)).registry.submit s requested'
      ((initial memory).run s (before ++ .submit requested :: mid)).memory).1 ≠ .ok id := by
  intro h'
  have hmem : id ∈ ((initial memory).run s (before ++ .submit requested :: mid)).admitted := by
    rw [run_append, run_cons]
    refine mem_admitted_run ?_ mid
    show id ∈ (afterSubmit s _ requested).admitted
    rw [admitted_afterSubmit h]
    exact List.mem_append_right _ (List.mem_singleton_self id)
  rw [run_append, run_cons] at hfresh
  have hnodup : (afterSubmit s ((initial memory).run s (before ++ .submit requested :: mid))
      requested').FreshRequests := hfresh.of_run
  rw [FreshRequests, admitted_afterSubmit h', List.nodup_append] at hnodup
  exact hnodup.2.2 id hmem id (List.mem_singleton_self id) rfl

/-- Where no identity is given twice, a request has one map. -/
theorem Admits.unique {memory : ω} {actions : List (Action ω)} {id : RequestId}
    {requested requested' : Capabilities}
    (hfresh : ((initial memory).run s actions).FreshRequests)
    (h : Admits s memory actions id requested) (h' : Admits s memory actions id requested') :
    requested = requested' := by
  obtain ⟨before, after, rfl, hadmitted⟩ := h
  obtain ⟨before', after', hactions, hadmitted'⟩ := h'
  -- the one submission is the other, or one of them came first
  rcases List.append_eq_append_iff.1 hactions with ⟨mid, hbefore, hmid⟩ | ⟨mid, hbefore, hmid⟩
  · cases mid with
    | nil => exact (Action.submit.inj (List.cons.inj hmid).1)
    | cons a mid =>
      obtain ⟨rfl, rfl⟩ := List.cons.inj hmid
      subst hbefore
      rw [hactions] at hfresh
      exact absurd hadmitted' (not_admits_again hfresh hadmitted)
  · cases mid with
    | nil => exact (Action.submit.inj (List.cons.inj hmid).1).symm
    | cons a mid =>
      obtain ⟨rfl, rfl⟩ := List.cons.inj hmid
      subst hbefore
      exact absurd hadmitted (not_admits_again hfresh hadmitted')

end System

/-! ### The sessions that are seen later -/

/-- The session that a piece of news shows. -/
def News.session? : News → Option Session
  | .bound x | .delivered x | .ended x => some x
  | .changed | .dropped _ _ => none

/-- A section reports to be over what was among the sessions. -/
theorem Section.ended_alike {r r' : Registry ω} {freed : Option ProxyId} {news : List News}
    (h : Section s callers r freed r' news) {y : Session} (hy : News.ended y ∈ news) :
    ∃ x ∈ r.active, Alike y x := by
  have hremoved : ∀ {id : ProxyId} {r r' : Registry ω} {out : Removed ω} {reason : Termination},
      r.removeProxy id reason = (some out, r') →
      News.ended y ∈ out.ended.map News.ended ++ [.changed] → ∃ x ∈ r.active, Alike y x := by
    intro id r r' out reason h hy
    obtain ⟨e, -, hended, -⟩ := removeProxy_eq h
    have hmem : y ∈ out.ended := by simpa using hy
    rw [hended] at hmem
    obtain ⟨key, -, hfound⟩ := List.mem_filterMap.1 hmem
    obtain ⟨x, hx, rfl⟩ := Option.map_eq_some_iff.1 hfound
    exact ⟨x, (session?_eq_some hx).1, .finish x _⟩
  cases h with
  | idle => exact absurd hy List.not_mem_nil
  | released h =>
    obtain ⟨x, hx, hout, -⟩ := release_eq h
    obtain rfl : y = x.finish _ := (by simpa using hy : y = _).trans hout
    exact ⟨x, (session?_eq_some hx).1, .finish x _⟩
  | removed h => exact hremoved h hy
  | staged => exact absurd hy List.not_mem_nil
  | replaced h => exact (hremoved (stage_eq h).2.2 hy :)
  | promoted => split at hy <;> simp at hy
  | swept => simp [SweepResult.news] at hy
  | stopped h =>
    obtain ⟨-, -, hended, -⟩ := stop_eq h
    have hmem : ∃ x ∈ r.active, x.finish .registryStopped = y := by simpa [hended] using hy
    obtain ⟨x, hx, rfl⟩ := hmem
    exact ⟨x, hx, .finish x _⟩

/-- A section shows what it binds itself and what was among the sessions. -/
theorem Section.shown {r r' : Registry ω} {freed : Option ProxyId} {news : List News}
    (h : Section s callers r freed r' news) {n : News} (hn : n ∈ news) {x : Session}
    (hx : n.session? = some x) :
    x ∈ news.filterMap News.bound? ∨ ∃ y ∈ r.active, Alike x y := by
  cases n with
  | bound y =>
    obtain rfl := Option.some.inj hx
    exact .inl (mem_filterMap_bound?.2 hn)
  | delivered y =>
    obtain rfl := Option.some.inj hx
    exact .inl (h.delivered_bound hn)
  | ended y =>
    obtain rfl := Option.some.inj hx
    exact .inr (h.ended_alike hn)
  | changed | dropped => cases hx

namespace System

variable {σ τ : System ω}

/-- A session agrees with one that was bound, in all that is settled then. -/
def Shows (σ : System ω) (x : Session) : Prop := ∃ y ∈ σ.created, Alike x y

theorem Shows.later {x : Session} (h : σ.Shows x) {events : List (Event ω)}
    (hhistory : τ.history = σ.history ++ events) : τ.Shows x := by
  obtain ⟨y, hy, halike⟩ := h
  exact ⟨y, mem_created_append hhistory hy, halike⟩

/-- Every session that is visible or reported goes back to one that was bound. -/
structure Shown (σ : System ω) : Prop where
  active : ∀ x ∈ σ.registry.active, σ.Shows x
  reported : ∀ ticket op n, Event.reported ticket op n ∈ σ.history →
    ∀ x, n.session? = some x → σ.Shows x

theorem Shown.of_quiet (hσ : σ.Shown) {events : List (Event ω)}
    (hhistory : τ.history = σ.history ++ events)
    (hevents : ∀ e ∈ events, ∀ ticket op n, e ≠ .reported ticket op n)
    (hactive : ∀ x ∈ τ.registry.active, σ.Shows x) : τ.Shown where
  active x hx := (hactive x hx).later hhistory
  reported ticket op n hn x hx :=
    (hσ.reported ticket op n (reported_of_quiet hhistory hevents hn) x hx).later hhistory

theorem Shown.of_section (hσ : σ.Shown) {freed : Option ProxyId} {turn : Turn ω} {ticket : Nat}
    {op : Operation ω}
    (hsection : Section s callers σ.registry freed turn.registry turn.news)
    (hregistry : τ.registry = turn.registry)
    (hhistory : τ.history = σ.history ++ turn.events ticket op) : τ.Shown := by
  have hbound : ∀ x ∈ turn.news.filterMap News.bound?, τ.Shows x := fun x hx => by
    refine ⟨x, ?_, .refl x⟩
    rw [created_append hhistory, filterMap_bound?_events]
    exact List.mem_append_right _ hx
  constructor
  · intro x hx
    rw [hregistry] at hx
    rcases hsection.origin hx with hx | hx
    · exact (hσ.active x hx).later hhistory
    · exact hbound x hx
  · intro ticket' op' n hn x hx
    rw [hhistory] at hn
    rcases List.mem_append.1 hn with hn | hn
    · exact (hσ.reported ticket' op' n hn x hx).later hhistory
    · rcases hsection.shown (reported_mem_events.1 hn).2.2 hx with hx | ⟨y, hy, halike⟩
      · exact hbound x hx
      · obtain ⟨z, hz, halike'⟩ := (hσ.active y hy).later hhistory
        exact ⟨z, hz, halike.trans halike'⟩

theorem Shown.of_activate (hσ : σ.Shown) (key : SessionKey) (externalKey : String) :
    ∀ x ∈ (σ.registry.activate key externalKey).2.active, σ.Shows x := by
  rcases activate_cases σ.registry key externalKey with h | ⟨z, hz, h⟩
  · rw [h]
    exact hσ.active
  · intro x hx
    rw [h] at hx
    obtain ⟨w, hw, rfl⟩ := List.mem_map.1 hx
    split
    · obtain ⟨y, hy, halike⟩ := hσ.active z (session?_eq_some hz).1
      exact ⟨y, hy, halike.activate externalKey⟩
    · exact hσ.active w hw

theorem Moved.shown (h : Moved s σ τ) (hσ : σ.Shown) : τ.Shown := by
  have hnil : τ.history = σ.history → τ.history = σ.history ++ [] := fun h => by
    rw [h, List.append_nil]
  cases h with
  | still hregistry _ hhistory | unprovisioned _ hregistry _ hhistory =>
    exact hσ.of_quiet (hnil hhistory) (by simp) (hregistry ▸ hσ.active)
  | activated key externalKey hregistry _ hhistory =>
    exact hσ.of_quiet (hnil hhistory) (by simp) (hregistry ▸ hσ.of_activate key externalKey)
  | refused _ hregistry _ hhistory | abandoned _ _ hregistry _ hhistory
  | admitted _ _ hregistry _ hhistory | withdrawn _ _ hregistry _ hhistory =>
    exact hσ.of_quiet hhistory (by simp) (hregistry ▸ hσ.active)
  | begun ticket op callers turn hturn hregistry _ hhistory =>
    subst hturn
    exact hσ.of_section (start_section callers σ.registry σ.memory op) hregistry hhistory
  | resumed c _ prepared turn hturn hregistry _ hhistory =>
    subst hturn
    exact hσ.of_section (resume_section s everybody σ.registry σ.memory prepared c.call) hregistry
      hhistory

theorem shown_run (memory : ω) (actions : List (Action ω)) :
    ((initial memory).run s actions).Shown :=
  run_induction (fun σ a hσ => (step_moved σ a).shown hσ)
    ⟨fun _ h => absurd h List.not_mem_nil, fun _ _ _ h => absurd h List.not_mem_nil⟩ actions

/-! ### What the matchers leave behind -/

/-- The maps in the slots, in the sessions and in the requests of `σ` are those with which the
proxies were registered and the requests submitted in `actions`. -/
structure Unspoiled (s : Setting ω) (memory : ω) (actions : List (Action ω)) (σ : System ω) :
    Prop where
  /-- The slots of a registered proxy store what it offered. -/
  stored : ∀ id e, σ.registry.live.get? id = some e → e.slots.map (·.capabilities) = e.proxy.slots
  /-- This proxy is the one that was registered last under its identity. -/
  current : ∀ id e, σ.registry.live.get? id = some e →
    ∃ sessions earlier, σ.tenures id = ⟨e.proxy, sessions⟩ :: earlier
  /-- A session offers what the proxy of its slot offered there when it was registered. -/
  offered : ∀ x ∈ σ.created, ∃ t ∈ σ.tenures x.slot.proxy, x ∈ t.sessions ∧
    t.proxy.slots[x.slot.index]? = some x.offered
  /-- A session was requested with the map that was submitted for it. -/
  requested : ∀ x ∈ σ.created, Admits s memory actions x.requestId x.requested
  /-- There is no other such map, unless an identity is given twice. -/
  unique : σ.FreshRequests → ∀ x ∈ σ.created, ∀ requested,
    Admits s memory actions x.requestId requested → requested = x.requested
  /-- Whatever is seen of a session later says the same. -/
  shown : σ.Shown

theorem unspoiled_run (memory : ω) (actions : List (Action ω)) :
    Unspoiled s memory actions ((initial memory).run s actions) := by
  have hfurnished := furnished_run (s := s) memory actions
  have hrequested := requested_run (s := s) memory actions
  constructor
  case stored => exact hfurnished.stores
  case current =>
    intro id e he
    obtain ⟨sessions, earlier, htenures, -⟩ := (hfurnished.sparing.hosted id).current e he
    exact ⟨sessions, earlier, htenures⟩
  case offered =>
    intro x hx
    have hmem : x ∈ (((initial memory).run s actions).tenures x.slot.proxy).reverse.flatMap
        (·.sessions) := by
      rw [(hfurnished.sparing.hosted x.slot.proxy).whole]
      exact List.mem_filter.2 ⟨hx, by simp⟩
    obtain ⟨t, ht, hxt⟩ := List.mem_flatMap.1 hmem
    have ht := List.mem_reverse.1 ht
    exact ⟨t, ht, hxt, hfurnished.offers _ t ht x hxt⟩
  case requested => exact hrequested.created
  case unique =>
    intro hfresh x hx requested hadmits
    exact Admits.unique hfresh hadmits (hrequested.created x hx)
  case shown => exact shown_run memory actions

/-- Matching is stable and keeps to itself.  A call of the fleet's or of the cloud's matcher moves the
custom keys of its two maps; the fleet's writes at most the entry of the browser that is offered;
and a call on what was left changes nothing.  In a run, neither the slots nor the sessions show any
of it. -/
theorem matching_stable :
    (∀ defaults table offered requested,
      (Matcher.fleet defaults).Settles table offered requested ∧
        Matcher.FleetWrites defaults table offered requested) ∧
    (∀ table offered requested, Matcher.cloud.Settles table offered requested ∧
      (Matcher.cloud.judge table offered requested).versions = table) ∧
    ∀ (s : Setting ω) (memory : ω) (actions : List (Action ω)),
      Unspoiled s memory actions ((initial memory).run s actions) := by
  refine ⟨fun defaults table offered requested => ?_, fun table offered requested => ?_,
    fun s memory actions => unspoiled_run memory actions⟩
  · exact ⟨Matcher.fleet_settles defaults table offered requested,
      Matcher.fleet_writes defaults table offered requested⟩
  · exact ⟨Matcher.cloud_settles table offered requested, by simp only [Matcher.judge]⟩

/-- A node of the fleet whose screen and time zone stand under plain names. -/
def plainNode : Proxy Versions where
  serial := 0
  id := "node:4444"
  kind := .container
  slots := [Versions.chromeOffer]
  judge := Proxy.judgeBy (.fleet {})

/-- The matcher has moved the keys of both maps, and the session has them as they were. -/
example :
    let σ := (initial Versions.empty).run countingSetting
      [.begin (.add plainNode) {}, .resume 0 true, .submit Versions.chromeRequest,
        .begin .sweep {}]
    σ.created.map (fun x => (x.requested, x.offered)) =
      [(Versions.chromeRequest, Versions.chromeOffer)] := by
  decide +kernel

end System

end BrowserGrid.Registry
