import BrowserGrid.Proofs.Registry.Bijection
import BrowserGrid.Proofs.Registry.Debts

/-!
# What a section does to one session

* `start_outcome` and `resume_outcome`: a section leaves a session as it is, or it ends the session
  for a reason that has to do with this very session (`Operation.Ends`, `Call.Ends`).
* `release_frees`: a release ends the one session, and leaves the other sessions, the other slots
  and the other proxies alone (`Frees`).
-/

namespace BrowserGrid.Registry

variable {ω : Type} {s : Setting ω} {callers : Callers} {r r' : Registry ω} {x : Session}

/-! ### Looking for a session -/

theorem session?_of_sublist (hnodup : (r.active.map (·.key)).Nodup)
    (hsub : r'.active.Sublist r.active) (hx : x ∈ r'.active) : r'.session? x.key = some x :=
  session?_of_nodup (hnodup.sublist (hsub.map _)) hx

theorem find?_forget {active : List Session} {key other : SessionKey} (h : other ≠ key) :
    (forget active key).find? (·.key = other) = active.find? (·.key = other) := by
  rw [forget, List.find?_filter]
  congr 1
  funext y
  by_cases hy : y.key = other
  · simp [hy, h]
  · simp [hy]

/-! ### How a session ends -/

/-- An operation ends a session when it begins. -/
inductive Operation.Ends (x : Session) : Operation ω → Termination → Prop where
  /-- The session is released by its key. -/
  | released (reason : Termination) : Operation.Ends x (.release x.key reason) reason
  /-- Its proxy is removed. -/
  | removed : Operation.Ends x (.remove x.slot.proxy) .proxyRemoved
  /-- A proxy of the same identity is registered. -/
  | replaced (p : Proxy ω) (hp : p.id = x.slot.proxy) : Operation.Ends x (.add p) .reregistration
  /-- The registry is stopped. -/
  | stopped : Operation.Ends x .stop .registryStopped

/-- An operation ends a session when it goes on. -/
inductive Call.Ends (x : Session) : Call ω → Termination → Prop where
  /-- A slot is released by force, and the session was on it. -/
  | forced (reason : Termination) : Call.Ends x (.forcing x.key reason) reason
  /-- A sweep takes back the session, whose caller is gone. -/
  | returned (keys : List SessionKey) (toProvision : List Request) :
    Call.Ends x (.returning (x.key :: keys) toProvision) .clientGone

/-- The session `x` after a section: found in `r'` as it was, or not found there and reported in
`news`, finished for a reason that satisfies `ends`. -/
inductive Outcome (x : Session) (ends : Termination → Prop) (r' : Registry ω) (news : List News) :
    Prop where
  /-- The session stays as it is. -/
  | stays (h : r'.session? x.key = some x)
  /-- It ends, and this is reported. -/
  | ended (reason : Termination) (hends : ends reason) (hgone : r'.session? x.key = none)
    (hnews : News.ended (x.finish reason) ∈ news)

theorem Outcome.imp {ends ends' : Termination → Prop} {news : List News}
    (h : Outcome x ends r' news) (himp : ∀ reason, ends reason → ends' reason) :
    Outcome x ends' r' news := by
  cases h with
  | stays h => exact .stays h
  | ended reason hends hgone hnews => exact .ended reason (himp reason hends) hgone hnews

theorem releaseTurn_outcome (hr : Seated r.live r.active) (hx : x ∈ r.active) (memory : ω)
    (key : SessionKey) (reason : Termination) (spent : Session → Proxy ω → Call ω)
    (after : Option Session → Next ω) :
    Outcome x (fun why => x.key = key ∧ why = reason)
      (releaseTurn r memory key reason spent after).registry
      (releaseTurn r memory key reason spent after).news := by
  have hreleased : ∀ {out : Released ω} {r' : Registry ω} {news : List News},
      r.release key reason = (some out, r') → News.ended out.session ∈ news →
      Outcome x (fun why => x.key = key ∧ why = reason) r' news := by
    intro out r' news h hnews
    obtain ⟨y, hy, hout, rfl⟩ := release_eq h
    obtain ⟨hymem, hykey⟩ := session?_eq_some hy
    by_cases hkey : x.key = key
    · obtain rfl := hr.eq_of_key hx hymem (hkey.trans hykey.symm)
      refine .ended reason ⟨hkey, rfl⟩ (session?_eq_none_iff.2 fun hmem => ?_) (hout ▸ hnews)
      obtain ⟨z, hz, hzkey⟩ := List.mem_map.1 hmem
      exact (mem_forget.1 hz).2 (hzkey.trans hkey)
    · exact .stays (session?_of_sublist hr.keys_nodup List.filter_sublist
        (mem_forget.2 ⟨hx, hkey⟩))
  unfold releaseTurn
  split
  · rename_i h
    rw [(eq_of_release_none h).2]
    exact .stays (hr.session?_of_mem hx)
  · rename_i h
    exact hreleased h List.mem_cons_self
  · rename_i h
    exact hreleased h List.mem_cons_self

theorem removeProxy_outcome (hr : Seated r.live r.active) (hx : x ∈ r.active) {id : ProxyId}
    {reason : Termination} {out : Removed ω} (h : r.removeProxy id reason = (some out, r')) :
    Outcome x (fun why => id = x.slot.proxy ∧ why = reason) r'
      (out.ended.map .ended ++ [.changed]) := by
  obtain ⟨e, he, hended, rfl⟩ := removeProxy_eq h
  by_cases hmem : x.key ∈ e.sessions
  · obtain ⟨index, hindex⟩ := Entry.mem_sessions.1 hmem
    obtain ⟨y, hy, hslot, hkey⟩ :=
      hr.owned ⟨id, index⟩ x.key (LiveProxies.sessionIn?_eq_some.2 ⟨e, he, hindex⟩)
    obtain rfl := hr.eq_of_key hx hy hkey.symm
    refine .ended reason ⟨by rw [hslot], rfl⟩ (session?_eq_none_iff.2 fun hmem' => ?_)
      (List.mem_append_left _ (List.mem_map_of_mem ?_))
    · obtain ⟨z, hz, hzkey⟩ := List.mem_map.1 hmem'
      exact (mem_foldl_forget.1 hz).2 (hzkey ▸ hmem)
    · rw [hended]
      exact List.mem_filterMap.2 ⟨x.key, hmem, by rw [hr.session?_of_mem hx]; rfl⟩
  · exact .stays (session?_of_sublist hr.keys_nodup (foldl_forget_sublist _ _)
      (mem_foldl_forget.2 ⟨hx, hmem⟩))

theorem sweep_session? (callers : Callers) (r : Registry ω) (memory : ω) {key : SessionKey}
    (hx : r.session? key = some x) :
    (r.sweep s callers memory).registry.session? key = some x := by
  cases hstopped : r.stopped with
  | true =>
    rw [sweep_of_stopped hstopped]
    exact hx
  | false =>
    obtain ⟨_, _, w, hpassed⟩ := sweep_passed s callers hstopped memory
    obtain ⟨xs, hactive, _⟩ := hpassed.visits.active_eq
    have hsessions : (r.sweep s callers memory).registry.active = r.active ++ xs := by
      rw [hpassed.registry_eq]
      exact hactive
    -- the new sessions come after the old ones
    rw [session?] at hx ⊢
    rw [hsessions, List.find?_append, hx, Option.some_or]

theorem start_outcome (hr : Seated r.live r.active) (hx : x ∈ r.active) (memory : ω)
    (op : Operation ω) :
    Outcome x (op.Ends x) (op.start s callers r memory).registry
      (op.start s callers r memory).news := by
  have hthere := hr.session?_of_mem hx
  have hbegins := start_begins s callers r memory op
  generalize op.start s callers r memory = turn at hbegins ⊢
  cases hbegins with
  | refused | missing | vacant | occupied | halted => exact .stays hthere
  | staged p h =>
    obtain ⟨-, rfl⟩ := eq_of_removeProxy_none (stage_eq h).2.2
    exact .stays hthere
  | replaced p h =>
    have hremoved := removeProxy_outcome (r := r.withIdentity p.id) hr hx (stage_eq h).2.2
    refine hremoved.imp ?_
    rintro _ ⟨hid, rfl⟩
    exact .replaced p hid
  | removed id h =>
    refine (removeProxy_outcome hr hx h).imp ?_
    rintro _ ⟨rfl, rfl⟩
    exact .removed
  | released key reason =>
    refine (releaseTurn_outcome hr hx memory key reason _ _).imp ?_
    rintro _ ⟨rfl, rfl⟩
    exact .released _
  | broken | swept | returning => exact .stays (sweep_session? callers r memory hthere)
  | stopped h =>
    obtain ⟨_, _, hended, rfl⟩ := stop_eq h
    refine .ended .registryStopped .stopped rfl
      (List.mem_append_right _ (List.mem_map_of_mem ?_))
    rw [hended]
    exact List.mem_map_of_mem hx

theorem resume_outcome (hr : Seated r.live r.active) (hx : x ∈ r.active) (memory : ω)
    (prepared : Bool) (c : Call ω) :
    Outcome x (c.Ends x) (c.resume r memory prepared).registry
      (c.resume r memory prepared).news := by
  have hthere := hr.session?_of_mem hx
  cases c with
  | preparing new =>
    unfold Call.resume
    dsimp only
    split
    all_goals
      rename_i h
      obtain ⟨_, rfl⟩ := promote_eq h
      exact .stays hthere
  | forcing key reason =>
    refine (releaseTurn_outcome hr hx memory key reason _ _).imp ?_
    rintro _ ⟨rfl, rfl⟩
    exact .forced _
  | returning keys toProvision =>
    cases keys with
    | nil => exact .stays hthere
    | cons key keys =>
      refine (releaseTurn_outcome hr hx memory key .clientGone _ _).imp ?_
      rintro _ ⟨rfl, rfl⟩
      exact .returned keys toProvision
  | clearing | discarding | removing | releasing | retiring | stopping => exact .stays hthere

/-! ### A session that begins -/

theorem Sweep.Visited.bound_state {w w' : Sweep ω} {p : PendingRequest}
    (h : Visited s callers w p w') (hw : ∀ y ∈ w.bound, y.state = .bound) :
    ∀ y ∈ w'.bound, y.state = .bound := by
  cases h with
  | discarded | kept | refused => exact hw
  | bound =>
    intro y hy
    rw [deliver_bound] at hy
    rcases List.mem_append.1 hy with hy | hy
    · exact hw y hy
    · rw [List.mem_singleton.1 hy]
      rfl

/-- A session that a section binds has no key of the client's protocol yet. -/
theorem Section.bound_state {freed : Option ProxyId} {news : List News}
    (h : Section s callers r freed r' news) (hx : News.bound x ∈ news) : x.state = .bound := by
  rcases h.news_cases hx with hother | ⟨_, hother⟩ | ⟨memory, _, rfl⟩ | ⟨out, _, rfl⟩
  · cases hother
  · cases hother
  · rw [← mem_filterMap_bound?, filterMap_bound?_news] at hx
    cases hstopped : r.stopped with
    | true =>
      rw [sweep_of_stopped hstopped] at hx
      exact absurd hx List.not_mem_nil
    | false =>
      obtain ⟨_, _, w, hpassed⟩ := sweep_passed s callers hstopped memory
      rw [hpassed.bound_eq] at hx
      refine hpassed.visits.preserves Sweep.Visited.bound_state (fun y hy => ?_) x hx
      exact absurd hy List.not_mem_nil
  · simp at hx

/-! ### What a release touches -/

/-- A release has ended a session and touched nothing else. -/
structure Frees (r : Registry ω) (x : Session) (reason : Termination) (out : Released ω)
    (r' : Registry ω) : Prop where
  /-- It returns the session. -/
  session : out.session = x.finish reason
  /-- The session is released, for this reason. -/
  ended : out.session.state = .released ∧ out.session.termination = some reason
  /-- It is gone. -/
  gone : r'.session? x.key = none
  /-- The other sessions are as they were. -/
  sessions : ∀ key, key ≠ x.key → r'.session? key = r.session? key
  /-- So are the other proxies. -/
  proxies : ∀ id, id ≠ x.slot.proxy → r'.live.get? id = r.live.get? id
  /-- So are the other slots, unless they are gone with the proxy. -/
  slots : ∀ slot, slot ≠ x.slot → out.retired = none ∨ slot.proxy ≠ x.slot.proxy →
    LiveProxies.slot? r'.live slot = LiveProxies.slot? r.live slot
  /-- If the proxy of the session stays, only the slot of the session is freed. -/
  freed : out.retired = none → ∃ e, r.live.get? x.slot.proxy = some e ∧
    r'.live.get? x.slot.proxy = some (e.setSlot x.slot.index none)
  /-- Otherwise this is a single-use proxy that held no other session. -/
  spent : ∀ p, out.retired = some p → p.singleUse = true ∧ ∃ e,
    r.live.get? x.slot.proxy = some e ∧ e.proxy = p ∧ (∀ key ∈ e.sessions, key = x.key) ∧
      r'.live.get? x.slot.proxy = none
  /-- The rest of the registry is as it was. -/
  rest : r' = { r with live := r'.live, active := r'.active }

theorem eq_of_mem_sessions_of_isIdle {e : Entry ω} {index : Nat} {key other : SessionKey}
    (hidle : (e.setSlot index none).isIdle) (hat : e.sessionAt index = some key)
    (hother : other ∈ e.sessions) : other = key := by
  obtain ⟨place, hplace, _⟩ := Option.bind_eq_some_iff.1 hat
  have hlt : index < e.slots.length := (List.getElem?_eq_some_iff.1 hplace).1
  obtain ⟨i, hi⟩ := Entry.mem_sessions.1 hother
  have hnone := Entry.sessionAt_of_isIdle hidle i
  rw [Entry.sessionAt_setSlot e index i none hlt] at hnone
  split at hnone
  · rename_i heq
    rw [heq, hat] at hi
    exact (Option.some.inj hi).symm
  · rw [hi] at hnone
    cases hnone

theorem LiveProxies.retire_cases {live : LiveProxies ω} {id : ProxyId} {e : Entry ω}
    (he : live.get? id = some e) :
    retire live id = (none, live) ∨
      e.proxy.singleUse = true ∧ e.isIdle = true ∧ retire live id = (some e, live.erase id) := by
  unfold retire
  rw [he]
  dsimp only
  split
  · rename_i hspent
    simp only [Entry.accepts, Bool.and_eq_true, Bool.not_not] at hspent
    exact .inr ⟨hspent.1.1, hspent.2, rfl⟩
  · exact .inl rfl

theorem LiveProxies.slot?_insert_setSlot {live : LiveProxies ω} {slot other : SlotId} {e : Entry ω}
    (he : live.get? slot.proxy = some e) (hne : other ≠ slot) (session : Option SessionKey) :
    slot? (live.insert slot.proxy (e.setSlot slot.index session)) other = slot? live other := by
  obtain ⟨proxy, index⟩ := slot
  obtain ⟨proxy', index'⟩ := other
  simp only [slot?, KeyMap.get?_insert]
  by_cases hproxy : proxy' = proxy
  · obtain rfl := hproxy
    have hindex : index ≠ index' := by
      rintro rfl
      exact hne rfl
    rw [if_pos rfl, he]
    exact List.getElem?_modify_ne _ _ hindex
  · rw [if_neg hproxy]

theorem LiveProxies.slot?_congr {live live' : LiveProxies ω} {slot : SlotId}
    (h : live'.get? slot.proxy = live.get? slot.proxy) : slot? live' slot = slot? live slot := by
  rw [slot?, slot?, h]

/-- A release succeeds if the session is there, and touches nothing else. -/
theorem release_frees (hr : Seated r.live r.active) (hx : x ∈ r.active) (reason : Termination) :
    ∃ out r', r.release x.key reason = (some out, r') ∧ Frees r x reason out r' := by
  obtain ⟨e, he, hat⟩ := LiveProxies.sessionIn?_eq_some.1 (hr.seated x hx)
  have hgone : x.key ∉ (forget r.active x.key).map (·.key) := by
    intro hmem
    obtain ⟨y, hy, hkey⟩ := List.mem_map.1 hmem
    exact (mem_forget.1 hy).2 hkey
  have hvacated : (r.live.insert x.slot.proxy (e.setSlot x.slot.index none)).get? x.slot.proxy =
      some (e.setSlot x.slot.index none) := by
    rw [KeyMap.get?_insert, if_pos rfl]
  have hothers : ∀ id, id ≠ x.slot.proxy →
      (r.live.insert x.slot.proxy (e.setSlot x.slot.index none)).get? id = r.live.get? id :=
    fun id hid => by rw [KeyMap.get?_insert, if_neg hid]
  refine ⟨_, _, by rw [release, hr.session?_of_mem hx], ?_⟩
  rw [LiveProxies.vacate_eq he hat]
  -- the proxy stays, or this was the session of a single-use proxy
  rcases LiveProxies.retire_cases hvacated with hstays | ⟨hsingle, hidle, hspent⟩
  · rw [hstays]
    exact {
      session := rfl
      ended := ⟨rfl, rfl⟩
      gone := session?_eq_none_iff.2 hgone
      sessions := fun key hkey => find?_forget hkey
      proxies := hothers
      slots := fun slot hslot _ => LiveProxies.slot?_insert_setSlot he hslot none
      freed := fun _ => ⟨e, he, hvacated⟩
      spent := fun _ h => nomatch h
      rest := rfl }
  · have herased : ∀ id, id ≠ x.slot.proxy →
        ((r.live.insert x.slot.proxy (e.setSlot x.slot.index none)).erase x.slot.proxy).get? id =
          r.live.get? id := fun id hid => by
      rw [KeyMap.get?_erase, if_neg hid, hothers id hid]
    rw [hspent]
    exact {
      session := rfl
      ended := ⟨rfl, rfl⟩
      gone := session?_eq_none_iff.2 hgone
      sessions := fun key hkey => find?_forget hkey
      proxies := herased
      slots := fun slot _ hslot => LiveProxies.slot?_congr
        (herased slot.proxy (hslot.resolve_left fun h => nomatch h))
      freed := fun h => nomatch h
      spent := fun p hp => by
        obtain rfl := Option.some.inj hp
        refine ⟨hsingle, e, he, rfl, fun key hkey => ?_, ?_⟩
        · exact eq_of_mem_sessions_of_isIdle hidle hat hkey
        · show (KeyMap.erase _ _).get? x.slot.proxy = none
          rw [KeyMap.get?_erase, if_pos rfl]
      rest := rfl }

end BrowserGrid.Registry
