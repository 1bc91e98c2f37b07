import BrowserGrid.Proofs.Registry.Seated
import BrowserGrid.Registry.Status
import Mathlib.Data.List.Pairwise

/-!
# Sessions and slots are in bijection

Along a run the registry stays tidy because the registrations under way hold different identities,
each of them taken (`System.Orderly`): no other registration can promote a proxy of that identity.

* `System.orderly_run`: every run is orderly.
* `Tidy.bijective`: in a tidy registry the sessions and the busy slots are in bijection.
* `System.bijective_run`: both together.
-/

namespace BrowserGrid.Registry

variable {ω : Type} {s : Setting ω} {callers : Callers}

/-! ### Identities of registrations under way -/

/-- The identity that a registration under way has taken. -/
def Call.identity? : Call ω → Option ProxyId
  | .clearing _ new | .preparing new => some new.id
  | _ => none

theorem Call.identity?_of_preparation? {c : Call ω} {id : ProxyId}
    (h : id ∈ c.preparation?.map (·.id)) : id ∈ c.identity? := by
  cases c with
  | preparing new => exact h
  | _ => cases h

theorem releaseTurn_identity {r : Registry ω} {memory : ω} {key : SessionKey}
    {reason : Termination} {spent : Session → Proxy ω → Call ω} {after : Option Session → Next ω}
    (hspent : ∀ x p, (spent x p).identity? = none)
    (hafter : ∀ x call, after x = .waits call → call.identity? = none) {call : Call ω}
    (h : (releaseTurn r memory key reason spent after).next = .waits call) :
    call.identity? = none := by
  unfold releaseTurn at h
  split at h
  · exact hafter _ _ h
  · exact hafter _ _ h
  · cases h
    exact hspent _ _

theorem afterReturn_identity {keys : List SessionKey} {toProvision : List Request} {call : Call ω}
    (h : afterReturn keys toProvision = .waits call) : call.identity? = none := by
  unfold afterReturn at h
  split at h
  · cases h
  · cases h
    rfl

/-- An operation that begins takes an identity that was free. -/
theorem start_identity {callers : Callers} {r : Registry ω} {memory : ω} {op : Operation ω}
    {call : Call ω} (h : (op.start s callers r memory).next = .waits call) {id : ProxyId}
    (hid : id ∈ call.identity?) :
    r.stopped = false ∧ id ∉ r.registering ∧
      id ∈ (op.start s callers r memory).registry.registering := by
  have hbegins := start_begins s callers r memory op
  generalize op.start s callers r memory = turn at hbegins h ⊢
  cases hbegins with
  | refused | missing | vacant | broken | swept | halted => cases h
  | staged p hstage =>
    obtain ⟨hstopped, hfree, hremove⟩ := stage_eq hstage
    obtain ⟨-, rfl⟩ := eq_of_removeProxy_none hremove
    cases h
    obtain rfl := Option.some.inj hid
    exact ⟨hstopped, hfree, List.mem_cons_self⟩
  | replaced p hstage =>
    obtain ⟨hstopped, hfree, hremove⟩ := stage_eq hstage
    obtain ⟨e, _, _, rfl⟩ := removeProxy_eq hremove
    cases h
    have hnew : p.id = id := by
      split at hid <;> exact Option.some.inj hid
    rw [← hnew]
    exact ⟨hstopped, hfree, List.mem_cons_self⟩
  | removed | occupied | returning | stopped =>
    cases h
    cases hid
  | released key reason =>
    rw [releaseTurn_identity (fun _ _ => rfl) (fun _ _ h => by cases h) h] at hid
    cases hid

/-- An operation that goes on takes no identity, but may keep that of its registration. -/
theorem resume_identity {r : Registry ω} {memory : ω} {prepared : Bool} {c call : Call ω}
    (h : (c.resume r memory prepared).next = .waits call) {id : ProxyId}
    (hid : id ∈ call.identity?) :
    id ∈ c.identity? ∧ (c.resume r memory prepared).registry = r := by
  cases c with
  | clearing stale new =>
    cases h
    exact ⟨hid, rfl⟩
  | preparing new =>
    unfold Call.resume at h
    dsimp only at h
    split at h <;> cases h
    cases hid
  | forcing key reason =>
    rw [releaseTurn_identity (fun _ _ => rfl) (fun _ _ h => by cases h) h] at hid
    cases hid
  | returning keys toProvision =>
    cases keys with
    | nil => cases h
    | cons key keys =>
      rw [releaseTurn_identity (fun _ _ => rfl) (fun _ _ => afterReturn_identity) h] at hid
      cases hid
  | retiring spent keys toProvision =>
    rw [afterReturn_identity h] at hid
    cases hid
  | discarding | removing | releasing | stopping => cases h

/-- Only the end of its own registration frees an identity, as long as the registry runs. -/
theorem Section.registering {r r' : Registry ω} {freed : Option ProxyId} {news : List News}
    (h : Section s callers r freed r' news) (hstopped : r'.stopped = false) {id : ProxyId}
    (hid : id ∈ r.registering) (hfreed : id ∉ freed) : id ∈ r'.registering := by
  cases h with
  | idle => exact hid
  | released h =>
    obtain ⟨_, _, _, rfl⟩ := release_eq h
    exact hid
  | removed h =>
    obtain ⟨_, _, _, rfl⟩ := removeProxy_eq h
    exact hid
  | staged h =>
    obtain ⟨_, rfl⟩ := eq_of_removeProxy_none (stage_eq h).2.2
    exact List.mem_cons_of_mem _ hid
  | replaced h =>
    obtain ⟨_, _, _, rfl⟩ := removeProxy_eq (stage_eq h).2.2
    exact List.mem_cons_of_mem _ hid
  | promoted h =>
    obtain ⟨_, rfl⟩ := promote_eq h
    refine List.mem_filter.2 ⟨hid, ?_⟩
    rw [decide_eq_true_iff]
    rintro rfl
    exact hfreed rfl
  | swept memory =>
    cases hr : r.stopped with
    | true =>
      rw [sweep_of_stopped hr]
      exact hid
    | false =>
      obtain ⟨_, _, _, hpassed⟩ := sweep_passed s callers hr memory
      rw [hpassed.registry_eq]
      exact hid
  | stopped h =>
    obtain ⟨_, _, _, rfl⟩ := stop_eq h
    cases hstopped

/-! ### Every run is orderly -/

/-- The identities of the registrations under way. -/
def identities (calls : List (Underway ω)) : List ProxyId := calls.filterMap (·.call.identity?)

theorem mem_identities {calls : List (Underway ω)} {id : ProxyId} :
    id ∈ identities calls ↔ ∃ c ∈ calls, id ∈ c.call.identity? :=
  List.mem_filterMap

/-- At most one identity is added with the operation that a section leaves. -/
theorem nodup_identities_append {calls : List (Underway ω)} {next : Next ω} {ticket : Nat}
    {op : Operation ω} (hcalls : (identities calls).Nodup)
    (hnew : ∀ call id, next = .waits call → id ∈ call.identity? → id ∉ identities calls) :
    (identities (calls ++ next.calls ticket op)).Nodup := by
  rw [identities, List.filterMap_append, List.nodup_append]
  refine ⟨hcalls, ?_, fun other hother id hid => ?_⟩
  · cases next with
    | answers => exact List.nodup_nil
    | waits call => exact List.pairwise_filterMap.2 (List.pairwise_singleton _ _)
  · rintro rfl
    obtain ⟨c, hc, hcid⟩ := List.mem_filterMap.1 hid
    exact hnew c.call other (Next.eq_waits_of_mem hc) hcid hother

/-- Two operations under way hold different identities. -/
theorem eq_of_mem_identity {calls : List (Underway ω)} (h : (identities calls).Nodup)
    {c d : Underway ω} (hc : c ∈ calls) (hd : d ∈ calls) {id : ProxyId}
    (hcid : id ∈ c.call.identity?) (hdid : id ∈ d.call.identity?) : c = d := by
  by_contra hne
  have hsymm : Std.Symm fun a b : Underway ω =>
      ∀ x, a.call.identity? = some x → ∀ y, b.call.identity? = some y → x ≠ y :=
    ⟨fun a b hab x hx y hy heq => hab y hy x hx heq.symm⟩
  exact (List.pairwise_filterMap.1 h).forall hc hd hne id hcid id hdid rfl

namespace System

/-- The registry is tidy, and the registrations under way hold different identities. -/
structure Orderly (σ : System ω) : Prop where
  tidy : Tidy (σ.created.map (·.key)) σ.registry
  /-- The registrations under way hold different identities. -/
  distinct : (identities σ.calls).Nodup
  /-- As long as the registry runs, these identities are taken. -/
  taken : σ.registry.stopped = false → ∀ id ∈ identities σ.calls, id ∈ σ.registry.registering

theorem identities_without_sublist (σ : System ω) (ticket : Nat) :
    (identities (σ.without ticket).calls).Sublist (identities σ.calls) :=
  List.filter_sublist.filterMap _

theorem Orderly.initial (memory : ω) : (System.initial memory).Orderly where
  tidy := ⟨.empty, fun _ hx => absurd hx List.not_mem_nil, fun _ h => absurd h List.not_mem_nil⟩
  distinct := List.nodup_nil
  taken := fun _ _ h => absurd h List.not_mem_nil

/-- A section of an operation keeps a run orderly, given what it does to the identities. -/
theorem Orderly.of_section {σ τ : System ω} (hσ : σ.Orderly) (hfresh : τ.FreshKeys)
    {calls : List (Underway ω)} {freed : Option ProxyId} {turn : Turn ω} {ticket : Nat}
    {op : Operation ω} (hsection : Section s callers σ.registry freed turn.registry turn.news)
    (hregistry : τ.registry = turn.registry) (hcalls : τ.calls = calls ++ turn.next.calls ticket op)
    (hhistory : τ.history = σ.history ++ turn.events ticket op)
    (hold : (identities calls).Sublist (identities σ.calls))
    (hfreed : ∀ id ∈ freed, id ∈ identities σ.calls ∧ id ∉ identities calls)
    (hnew : ∀ call id, turn.next = .waits call → id ∈ call.identity? →
      id ∉ identities calls ∧ (turn.registry.stopped = false → id ∈ turn.registry.registering)) :
    τ.Orderly := by
  have hcreated : τ.created = σ.created ++ turn.news.filterMap News.bound? := by
    rw [created_append hhistory, filterMap_bound?_events]
  rw [FreshKeys, hcreated, List.map_append] at hfresh
  constructor
  · rw [hcreated, hregistry, List.map_append]
    exact hsection.tidy hσ.tidy (fun h id hid => hσ.taken h id (hfreed id hid).1) hfresh
  · rw [hcalls]
    exact nodup_identities_append (hσ.distinct.sublist hold)
      fun call id hnext hid => (hnew call id hnext hid).1
  · intro hstopped id hid
    rw [hregistry] at hstopped ⊢
    rw [hcalls, identities, List.filterMap_append] at hid
    rcases List.mem_append.1 hid with hid | hid
    -- an identity that is held by another registration is not the one that is freed
    · refine hsection.registering hstopped ?_ fun hmem => (hfreed id hmem).2 hid
      exact hσ.taken (hsection.stopped_mono hstopped) id (hold.subset hid)
    · obtain ⟨c, hc, hcid⟩ := mem_identities.1 hid
      exact (hnew c.call id (Next.eq_waits_of_mem hc) hcid).2 hstopped

/-- The external key of a session does not matter for the registry to be tidy. -/
theorem Apart.tidy {σ τ : System ω} (h : Apart σ τ) {used : List SessionKey}
    (hσ : Tidy used σ.registry) : Tidy used τ.registry := by
  obtain ⟨hseated, hknown, hvacant⟩ := hσ
  refine ⟨?_, ?_, by rw [h.registering, h.live]; exact hvacant⟩
  · rw [h.live]
    rcases h.active with hsame | ⟨x, hx, externalKey, hnoted⟩
    · exact hsame ▸ hseated
    · exact hnoted ▸ hseated.activate hx externalKey
  · intro y hy
    rcases h.active with hsame | ⟨x, hx, externalKey, hnoted⟩
    · exact hknown y (hsame ▸ hy)
    · rw [hnoted] at hy
      obtain ⟨z, hz, rfl⟩ := List.mem_map.1 hy
      split
      · exact hknown x hx
      · exact hknown z hz

theorem Orderly.apart {σ τ : System ω} (hσ : σ.Orderly) (h : Apart σ τ) : τ.Orderly where
  tidy := h.created_eq ▸ h.tidy hσ.tidy
  distinct := h.calls ▸ hσ.distinct
  taken := fun hrunning id hid => by
    rw [h.registering]
    exact hσ.taken (h.stopped ▸ hrunning) id (h.calls ▸ hid)

theorem Orderly.begun {σ τ : System ω} (hσ : σ.Orderly) (hfresh : τ.FreshKeys)
    {op : Operation ω} {ticket : Nat}
    (hregistry : τ.registry = (op.start s callers σ.registry σ.memory).registry)
    (hcalls : τ.calls =
      σ.calls ++ (op.start s callers σ.registry σ.memory).next.calls ticket op)
    (hhistory : τ.history =
      σ.history ++ (op.start s callers σ.registry σ.memory).events ticket op) : τ.Orderly := by
  refine hσ.of_section hfresh (start_section ..) hregistry hcalls hhistory (.refl _)
    (fun id hid => absurd hid (Option.not_mem_none id)) fun call id hnext hid => ?_
  obtain ⟨hstopped, hfree, htaken⟩ := start_identity hnext hid
  exact ⟨fun hmem => hfree (hσ.taken hstopped id hmem), fun _ => htaken⟩

theorem Orderly.resumed (s : Setting ω) {σ τ : System ω} (hσ : σ.Orderly) (hfresh : τ.FreshKeys)
    {c : Underway ω} (hc : c ∈ σ.calls) {prepared : Bool}
    (hregistry : τ.registry = (c.call.resume σ.registry σ.memory prepared).registry)
    (hcalls : τ.calls = (σ.without c.ticket).calls ++
      (c.call.resume σ.registry σ.memory prepared).next.calls c.ticket c.operation)
    (hhistory : τ.history = σ.history ++
      (c.call.resume σ.registry σ.memory prepared).events c.ticket c.operation) :
    τ.Orderly := by
  -- the operation itself is no longer among the others, so its identity is not either
  have hgone : ∀ id ∈ c.call.identity?, id ∉ identities (σ.without c.ticket).calls := by
    intro id hid hmem
    obtain ⟨d, hd, hdid⟩ := mem_identities.1 hmem
    obtain ⟨hd, hticket⟩ := List.mem_filter.1 hd
    rw [eq_of_mem_identity hσ.distinct hd hc hdid hid] at hticket
    simp at hticket
  refine hσ.of_section hfresh (resume_section s everybody ..) hregistry hcalls hhistory
    (identities_without_sublist σ c.ticket) (fun id hid => ?_) fun call id hnext hid => ?_
  · have hid := Call.identity?_of_preparation? hid
    exact ⟨mem_identities.2 ⟨c, hc, hid⟩, hgone id hid⟩
  · obtain ⟨hid, hsame⟩ := resume_identity hnext hid
    rw [hsame]
    exact ⟨hgone id hid, fun h => hσ.taken h id (mem_identities.2 ⟨c, hc, hid⟩)⟩

theorem Orderly.abandoned {σ τ : System ω} (hσ : σ.Orderly) (c : Underway ω)
    (hregistry : τ.registry = σ.registry) (hcalls : τ.calls = (σ.without c.ticket).calls)
    (hhistory : τ.history = σ.history ++ [.abandoned c.ticket c.operation c.call]) :
    τ.Orderly where
  tidy := by
    rw [hregistry, created_append hhistory]
    exact (List.append_nil σ.created).symm ▸ hσ.tidy
  distinct := hcalls ▸ hσ.distinct.sublist (identities_without_sublist σ c.ticket)
  taken := fun hrunning id hid => by
    rw [hregistry] at hrunning ⊢
    rw [hcalls] at hid
    exact hσ.taken hrunning id ((identities_without_sublist σ c.ticket).subset hid)

theorem Orderly.of_moved {σ τ : System ω} (h : Moved s σ τ) (hσ : σ.Orderly)
    (hfresh : τ.FreshKeys) : τ.Orderly := by
  cases h.involved with
  | apart h => exact hσ.apart h
  | begun _ _ _ hregistry hcalls hhistory => exact hσ.begun hfresh hregistry hcalls hhistory
  | resumed c hc _ hregistry hcalls hhistory =>
    exact hσ.resumed s hfresh hc hregistry hcalls hhistory
  | abandoned c _ hregistry hcalls hhistory => exact hσ.abandoned c hregistry hcalls hhistory

theorem orderly_run {σ : System ω} (hσ : σ.Orderly) (actions : List (Action ω))
    (hfresh : (σ.run s actions).FreshKeys) : (σ.run s actions).Orderly := by
  induction actions generalizing σ with
  | nil => exact hσ
  | cons a actions ih =>
    have hrest : ((step s σ a).run s actions).FreshKeys := hfresh
    exact ih (hσ.of_moved (step_moved σ a) hrest.of_run) hrest

end System

/-! ### The bijection -/

/-- The sessions and the busy slots are in bijection. -/
structure Bijective (r : Registry ω) : Prop where
  /-- A session has the key that it is found by, has not ended, and is on its slot. -/
  session : ∀ key x, r.session? key = some x →
    x.key = key ∧ (x.state = .bound ∨ x.state = .active) ∧ x.termination = none ∧
      ∃ e slot, r.live.get? x.slot.proxy = some e ∧ e.slots[x.slot.index]? = some slot ∧
        slot.session = some key
  /-- What is on a slot is the key of a session of this slot. -/
  slot : ∀ id e (index : Nat) slot key, r.live.get? id = some e → e.slots[index]? = some slot →
    slot.session = some key → ∃ x, r.session? key = some x ∧ x.slot = ⟨id, index⟩
  /-- The keys of the sessions differ. -/
  keys_nodup : (r.active.map (·.key)).Nodup
  /-- No slot carries two sessions. -/
  slot_injective : ∀ x ∈ r.active, ∀ y ∈ r.active, x.slot = y.slot → x = y
  /-- No session is on two slots. -/
  key_injective : ∀ slot slot' key, r.sessionIn? slot = some key → r.sessionIn? slot' = some key →
    slot = slot'
  /-- The status counts as many sessions as busy slots. -/
  counts : r.status.active = (r.status.proxies.flatMap (·.slots)).countP (·.session.isSome)

theorem session?_of_nodup {r : Registry ω} (h : (r.active.map (·.key)).Nodup) {x : Session}
    (hx : x ∈ r.active) : r.session? x.key = some x := by
  obtain ⟨y, hy⟩ : ∃ y, r.session? x.key = some y :=
    Option.isSome_iff_exists.1 (List.find?_isSome.2 ⟨x, hx, by simp⟩)
  obtain ⟨hmem, hkey⟩ := session?_eq_some hy
  rw [hy, List.inj_on_of_nodup_map h hmem hx hkey]

namespace Seated

variable {live : LiveProxies ω} {active : List Session}

theorem session?_of_mem {r : Registry ω} (h : Seated r.live r.active) {x : Session}
    (hx : x ∈ r.active) : r.session? x.key = some x :=
  session?_of_nodup h.keys_nodup hx

/-- A key is on one slot only. -/
theorem eq_of_sessionIn? (h : Seated live active) {slot slot' : SlotId} {key : SessionKey}
    (hslot : LiveProxies.sessionIn? live slot = some key)
    (hslot' : LiveProxies.sessionIn? live slot' = some key) : slot = slot' := by
  obtain ⟨x, hx, rfl, hkey⟩ := h.owned slot key hslot
  obtain ⟨y, hy, rfl, hkey'⟩ := h.owned slot' key hslot'
  rw [h.eq_of_key hx hy (hkey.trans hkey'.symm)]

theorem nodup_sessions (h : Seated live active) {id : ProxyId} {e : Entry ω}
    (he : live.get? id = some e) : e.sessions.Nodup := by
  refine List.pairwise_filterMap.2 (List.pairwise_iff_getElem.2 ?_)
  intro i j hi hj hlt key hkey key' hkey' heq
  have hseat : ∀ (n : Nat) (hn : n < e.slots.length), e.slots[n].session = some key →
      LiveProxies.sessionIn? live ⟨id, n⟩ = some key := fun n hn hkey => by
    refine LiveProxies.sessionIn?_eq_some.2 ⟨e, he, ?_⟩
    rw [Entry.sessionAt, List.getElem?_eq_getElem hn, Option.bind_some, hkey]
  have hslot := h.eq_of_sessionIn? (hseat i hi hkey) (hseat j hj (heq ▸ hkey'))
  have hindex : i = j := congrArg SlotId.index hslot
  omega

/-- The keys on the slots, each as often as it is there. -/
theorem nodup_flatMap_sessions (h : Seated live active) :
    (live.values.flatMap Entry.sessions).Nodup := by
  -- a key is once on a proxy, and on one proxy only
  rw [KeyMap.values, List.flatMap_map, List.nodup_flatMap]
  constructor
  · intro entry hentry
    exact h.nodup_sessions (KeyMap.get?_eq_some_iff.2 hentry)
  · refine live.sorted.imp_of_mem fun {a b} ha hb hlt key hkey hkey' => ?_
    obtain ⟨i, hi⟩ := Entry.mem_sessions.1 hkey
    obtain ⟨j, hj⟩ := Entry.mem_sessions.1 hkey'
    have hslot : (⟨a.1, i⟩ : SlotId) = ⟨b.1, j⟩ := h.eq_of_sessionIn?
      (LiveProxies.sessionIn?_eq_some.2 ⟨a.2, KeyMap.get?_eq_some_iff.2 ha, hi⟩)
      (LiveProxies.sessionIn?_eq_some.2 ⟨b.2, KeyMap.get?_eq_some_iff.2 hb, hj⟩)
    have hproxy : a.1 = b.1 := congrArg SlotId.proxy hslot
    rw [hproxy] at hlt
    exact absurd hlt (String.lt_irrefl b.1)

/-- The keys on the slots are the keys of the sessions. -/
theorem flatMap_sessions_perm (h : Seated live active) :
    (live.values.flatMap Entry.sessions).Perm (active.map (·.key)) := by
  refine (List.perm_ext_iff_of_nodup h.nodup_flatMap_sessions h.keys_nodup).2 fun key => ?_
  rw [KeyMap.values, List.flatMap_map, List.mem_flatMap, List.mem_map]
  constructor
  · rintro ⟨⟨id, e⟩, hentry, hkey⟩
    obtain ⟨index, hindex⟩ := Entry.mem_sessions.1 hkey
    obtain ⟨x, hx, _, hkey⟩ := h.owned ⟨id, index⟩ key
      (LiveProxies.sessionIn?_eq_some.2 ⟨e, KeyMap.get?_eq_some_iff.2 hentry, hindex⟩)
    exact ⟨x, hx, hkey⟩
  · rintro ⟨x, hx, rfl⟩
    obtain ⟨e, he, hat⟩ := LiveProxies.sessionIn?_eq_some.1 (h.seated x hx)
    exact ⟨(x.slot.proxy, e), KeyMap.get?_eq_some_iff.1 he, Entry.mem_sessions.2 ⟨_, hat⟩⟩

theorem counts {r : Registry ω} (h : Seated r.live r.active) :
    r.status.active = (r.status.proxies.flatMap (·.slots)).countP (·.session.isSome) := by
  have hslots : r.status.proxies.flatMap (·.slots) = r.live.values.flatMap (·.slots) :=
    List.flatMap_map ..
  have hkeys : r.live.values.flatMap Entry.sessions =
      (r.live.values.flatMap (·.slots)).filterMap (·.session) :=
    List.filterMap_flatMap.symm
  -- the busy slots carry the keys of the sessions, each once
  have hlength := h.flatMap_sessions_perm.length_eq
  rw [hkeys, List.length_filterMap_eq_countP, List.length_map] at hlength
  rw [hslots, hlength]
  rfl

end Seated

theorem Tidy.bijective {used : List SessionKey} {r : Registry ω} (h : Tidy used r) :
    r.Bijective where
  session := by
    intro key x hx
    obtain ⟨hmem, rfl⟩ := session?_eq_some hx
    obtain ⟨e, he, hat⟩ := LiveProxies.sessionIn?_eq_some.1 (h.seated.seated x hmem)
    obtain ⟨slot, hslot, hkey⟩ := Option.bind_eq_some_iff.1 hat
    obtain ⟨hstate, hend⟩ := h.seated.running x hmem
    exact ⟨rfl, hstate, hend, e, slot, he, hslot, hkey⟩
  slot := by
    intro id e index slot key he hslot hkey
    obtain ⟨x, hx, hxslot, rfl⟩ := h.seated.owned ⟨id, index⟩ key
      (LiveProxies.sessionIn?_eq_some.2 ⟨e, he, by rw [Entry.sessionAt, hslot]; exact hkey⟩)
    exact ⟨x, h.seated.session?_of_mem hx, hxslot⟩
  keys_nodup := h.seated.keys_nodup
  slot_injective := by
    intro x hx y hy hslot
    have hseat := h.seated.seated x hx
    rw [hslot, h.seated.seated y hy] at hseat
    exact h.seated.eq_of_key hx hy (Option.some.inj hseat).symm
  key_injective := fun _ _ _ => h.seated.eq_of_sessionIn?
  counts := h.seated.counts

namespace System

/-- After every run the sessions and the busy slots are in bijection, and a registration that is
about to end finds no registered proxy of its identity. -/
theorem bijective_run (memory : ω) (actions : List (Action ω))
    (hfresh : ((System.initial memory).run s actions).FreshKeys) :
    ((System.initial memory).run s actions).registry.Bijective ∧
      ∀ c ∈ ((System.initial memory).run s actions).calls, ∀ p, c.call = .preparing p →
        ∀ prepared r', ((System.initial memory).run s actions).registry.promote p prepared =
          (.live, r') →
        ((System.initial memory).run s actions).registry.live.get? p.id = none := by
  have horderly := orderly_run (s := s) (Orderly.initial memory) actions hfresh
  refine ⟨horderly.tidy.bijective, fun c hc p hp prepared r' hlive => ?_⟩
  -- a registration that succeeds finds the registry running, and then its identity is taken
  have hrunning := (promote_eq hlive).1 rfl
  refine horderly.tidy.vacant p.id (horderly.taken hrunning p.id (mem_identities.2 ⟨c, hc, ?_⟩))
  rw [hp]
  rfl

/-- A session on the slot of one proxy, while the registration of another is under way. -/
def sessionRun : List (Action Unit) :=
  [.begin (.add (judgingProxy "node:4444" (.accepted, ·))) {}, .resume 0 true, .submit default,
    .begin .sweep {}, .activate ⟨⟨1⟩⟩ "client",
    .begin (.add (judgingProxy "node:5555" (.accepted, ·))) {}]

theorem bijective_run_session :
    ((System.initial ()).run countingSetting sessionRun).FreshKeys ∧
      ((System.initial ()).run countingSetting sessionRun).registry.active.length = 1 ∧
      ((System.initial ()).run countingSetting sessionRun).calls.length = 1 ∧
      ((System.initial ()).run countingSetting sessionRun).registry.Bijective := by
  have hfresh : ((System.initial ()).run countingSetting sessionRun).FreshKeys := by
    unfold FreshKeys
    decide +kernel
  exact ⟨hfresh, by decide +kernel, by decide +kernel, (bijective_run () sessionRun hfresh).1⟩

end System

end BrowserGrid.Registry
