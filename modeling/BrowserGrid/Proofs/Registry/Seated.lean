import BrowserGrid.Proofs.Registry.Moves
import BrowserGrid.Proofs.Registry.Seats
import Mathlib.Data.List.Nodup

/-!
# Sessions on their slots

The registry keeps every session twice, among its sessions and on a slot, and its sections change
the two in separate statements.  `Seated` says that they agree; `Tidy` adds that an identity whose
registration is under way has no registered proxy, which is why the end of a registration takes
nothing away.  `Section.tidy` is the main result: a section of an operation keeps a registry tidy.
-/

namespace BrowserGrid.Registry

variable {ω : Type} {s : Setting ω} {callers : Callers}

/-! ### The sessions and the slots agree -/

/-- The sessions and the slots agree. -/
structure Seated (live : LiveProxies ω) (active : List Session) : Prop where
  /-- The keys of the sessions differ. -/
  keys_nodup : (active.map (·.key)).Nodup
  /-- Every session is bound or active, and has not ended. -/
  running : ∀ x ∈ active, (x.state = .bound ∨ x.state = .active) ∧ x.termination = none
  /-- Every session is on its slot. -/
  seated : ∀ x ∈ active, LiveProxies.sessionIn? live x.slot = some x.key
  /-- Whatever is on a slot is a session of that slot. -/
  owned : ∀ slot key, LiveProxies.sessionIn? live slot = some key →
    ∃ x ∈ active, x.slot = slot ∧ x.key = key

namespace Seated

variable {live live' : LiveProxies ω} {active : List Session}

theorem eq_of_key (h : Seated live active) {x y : Session} (hx : x ∈ active) (hy : y ∈ active)
    (hkey : x.key = y.key) : x = y :=
  List.inj_on_of_nodup_map h.keys_nodup hx hy hkey

theorem empty : Seated (KeyMap.empty : LiveProxies ω) [] where
  keys_nodup := List.nodup_nil
  running := fun _ hx => absurd hx List.not_mem_nil
  seated := fun _ hx => absurd hx List.not_mem_nil
  owned := fun slot key h => by
    rw [LiveProxies.sessionIn?_empty] at h
    cases h

theorem congr (h : Seated live active)
    (hlive : ∀ slot, LiveProxies.sessionIn? live' slot = LiveProxies.sessionIn? live slot) :
    Seated live' active where
  keys_nodup := h.keys_nodup
  running := h.running
  seated := fun x hx => by rw [hlive, h.seated x hx]
  owned := fun slot key hkey => h.owned slot key (by rw [← hlive, hkey])

/-- A new session on a free slot. -/
theorem bind (h : Seated live active) {x : Session}
    (hlive : LiveProxies.occupy? live x.slot x.key = some live')
    (hfresh : x.key ∉ active.map (·.key)) (hstate : x.state = .bound)
    (hend : x.termination = none) : Seated live' (active ++ [x]) := by
  obtain ⟨hfree, hlive⟩ := LiveProxies.sessionIn?_occupy hlive
  constructor
  · rw [List.map_append, List.map_singleton, List.nodup_append]
    refine ⟨h.keys_nodup, List.nodup_singleton _, fun key hkey key' hkey' => ?_⟩
    rintro rfl
    exact hfresh (List.mem_singleton.1 hkey' ▸ hkey)
  · intro y hy
    rcases List.mem_append.1 hy with hy | hy
    · exact h.running y hy
    · obtain rfl := List.mem_singleton.1 hy
      exact ⟨.inl hstate, hend⟩
  · intro y hy
    rcases List.mem_append.1 hy with hy | hy
    -- the slot was free, so no session is on it
    · have hne : y.slot ≠ x.slot := fun heq => by
        have hseat := h.seated y hy
        rw [heq, hfree] at hseat
        cases hseat
      rw [hlive, if_neg hne, h.seated y hy]
    · obtain rfl := List.mem_singleton.1 hy
      rw [hlive, if_pos rfl]
  · intro slot key hkey
    rw [hlive] at hkey
    split at hkey
    · rename_i hslot
      exact ⟨x, List.mem_append_right _ (List.mem_singleton.2 rfl), hslot.symm,
        Option.some.inj hkey⟩
    · obtain ⟨y, hy, hyslot⟩ := h.owned slot key hkey
      exact ⟨y, List.mem_append_left _ hy, hyslot⟩

/-- The end of a session. -/
theorem release (h : Seated live active) {x : Session} (hx : x ∈ active) :
    Seated (LiveProxies.vacate live x.slot x.key) (forget active x.key) := by
  have hlive := LiveProxies.sessionIn?_vacate (h.seated x hx)
  constructor
  · exact h.keys_nodup.sublist (List.filter_sublist.map _)
  · exact fun y hy => h.running y (mem_forget.1 hy).1
  · intro y hy
    obtain ⟨hy, hkey⟩ := mem_forget.1 hy
    -- two sessions of one slot would have one key
    have hne : y.slot ≠ x.slot := fun heq => by
      have hseat := h.seated y hy
      rw [heq, h.seated x hx] at hseat
      exact hkey (Option.some.inj hseat).symm
    rw [hlive, if_neg hne, h.seated y hy]
  · intro slot key hkey
    rw [hlive] at hkey
    split at hkey
    · cases hkey
    · rename_i hslot
      obtain ⟨y, hy, hyslot, hykey⟩ := h.owned slot key hkey
      refine ⟨y, mem_forget.2 ⟨hy, fun heq => hslot ?_⟩, hyslot, hykey⟩
      rw [← hyslot, h.eq_of_key hy hx heq]

/-- The end of a proxy and its sessions. -/
theorem erase (h : Seated live active) {id : ProxyId} {e : Entry ω}
    (he : live.get? id = some e) :
    Seated (live.erase id) (e.sessions.foldl forget active) := by
  constructor
  · exact h.keys_nodup.sublist ((foldl_forget_sublist _ _).map _)
  · exact fun x hx => h.running x (mem_foldl_forget.1 hx).1
  · intro x hx
    obtain ⟨hx, hkey⟩ := mem_foldl_forget.1 hx
    have hne : x.slot.proxy ≠ id := fun heq => by
      have hseat := h.seated x hx
      rw [LiveProxies.sessionIn?_eq, heq, he, Option.bind_some] at hseat
      exact hkey (Entry.mem_sessions.2 ⟨x.slot.index, hseat⟩)
    rw [LiveProxies.sessionIn?_erase, if_neg hne, h.seated x hx]
  · intro slot key hkey
    rw [LiveProxies.sessionIn?_erase] at hkey
    split at hkey
    · cases hkey
    · rename_i hproxy
      obtain ⟨x, hx, hslot, rfl⟩ := h.owned slot key hkey
      refine ⟨x, mem_foldl_forget.2 ⟨hx, fun hmem => hproxy ?_⟩, hslot, rfl⟩
      obtain ⟨index, hindex⟩ := Entry.mem_sessions.1 hmem
      obtain ⟨y, hy, hyslot, hykey⟩ := h.owned ⟨id, index⟩ x.key
        (LiveProxies.sessionIn?_eq_some.2 ⟨e, he, hindex⟩)
      -- a key that is on the erased proxy belongs to a session of that proxy
      rw [← hslot, ← h.eq_of_key hy hx hykey, hyslot]

/-- Noting the key of the client's protocol. -/
theorem activate (h : Seated live active) {x : Session} (hx : x ∈ active) (externalKey : String) :
    Seated live (active.map fun y => if y.key = x.key then x.activate externalKey else y) := by
  have hkey : ∀ y : Session, (if y.key = x.key then x.activate externalKey else y).key = y.key := by
    intro y
    split
    · rename_i heq
      exact heq.symm
    · rfl
  -- `x` replaces every session of its key, and there is only `x` itself
  have hslot : ∀ y ∈ active,
      (if y.key = x.key then x.activate externalKey else y).slot = y.slot := by
    intro y hy
    split
    · rename_i heq
      rw [h.eq_of_key hy hx heq]
      rfl
    · rfl
  constructor
  · have hkeys : (active.map fun y => if y.key = x.key then x.activate externalKey else y).map
        (·.key) = active.map (·.key) := by
      rw [List.map_map]
      exact List.map_congr_left fun y _ => hkey y
    rw [hkeys]
    exact h.keys_nodup
  · intro z hz
    obtain ⟨y, hy, rfl⟩ := List.mem_map.1 hz
    split
    · exact ⟨.inr rfl, (h.running x hx).2⟩
    · exact h.running y hy
  · intro z hz
    obtain ⟨y, hy, rfl⟩ := List.mem_map.1 hz
    rw [hkey, hslot y hy, h.seated y hy]
  · intro slot key hkey'
    obtain ⟨y, hy, hyslot, hykey⟩ := h.owned slot key hkey'
    exact ⟨_, List.mem_map_of_mem hy, by rw [hslot y hy, hyslot], by rw [hkey, hykey]⟩

end Seated

/-! ### Sections keep a registry tidy -/

/-- The sessions and the slots agree, keys are drawn before they are used, and an identity whose
registration is under way has no registered proxy. -/
structure Tidy (used : List SessionKey) (r : Registry ω) : Prop where
  /-- The sessions and the slots agree. -/
  seated : Seated r.live r.active
  /-- The keys of the sessions have been drawn. -/
  known : ∀ x ∈ r.active, x.key ∈ used
  /-- An identity whose registration is under way has no registered proxy. -/
  vacant : ∀ id ∈ r.registering, r.live.get? id = none

namespace Sweep

/-- A sweep under way that has kept the sessions and the slots in agreement. -/
structure Agrees (used : List SessionKey) (vacant : List ProxyId) (w : Sweep ω) : Prop where
  /-- The sessions and the slots agree. -/
  seated : Seated w.live w.active
  /-- The keys of the sessions have been drawn. -/
  known : ∀ x ∈ w.active, x.key ∈ used ++ w.bound.map (·.key)
  /-- These identities have no registered proxy. -/
  vacant : ∀ id ∈ vacant, w.live.get? id = none

theorem Visited.agrees {w w' : Sweep ω} {p : PendingRequest} (h : Visited s callers w p w')
    {used : List SessionKey} {vacant : List ProxyId} (hw : Agrees used vacant w)
    (hfresh : (used ++ w'.bound.map (·.key)).Nodup) : Agrees used vacant w' := by
  cases h with
  | discarded => exact ⟨hw.seated, hw.known, hw.vacant⟩
  | kept => exact ⟨hw.seated, hw.known, hw.vacant⟩
  | refused => exact ⟨hw.seated, hw.known, hw.vacant⟩
  | bound _ memory slot offered live hlive =>
    -- the new key is not among the earlier ones, since all of them differ in the end
    have hnew : (nextSession s w p slot offered).key ∉ w.active.map (·.key) := by
      intro hmem
      obtain ⟨x, hx, hkey⟩ := List.mem_map.1 hmem
      rw [deliver_bound, withSession, List.map_append, ← List.append_assoc,
        List.nodup_append] at hfresh
      exact hfresh.2.2 _ (hw.known x hx) _ (List.mem_singleton.2 rfl) hkey
    constructor
    · rw [deliver_live, deliver_active]
      exact hw.seated.bind hlive hnew rfl rfl
    · intro x hx
      rw [deliver_active, withSession] at hx
      rw [deliver_bound, withSession, List.map_append, ← List.append_assoc]
      rcases List.mem_append.1 hx with hx | hx
      · exact List.mem_append_left _ (hw.known x hx)
      · exact List.mem_append_right _ (List.mem_map_of_mem hx)
    · intro id hid
      rw [deliver_live]
      exact LiveProxies.get?_occupy_eq_none hlive (hw.vacant id hid)

theorem Visits.agrees {w w' : Sweep ω} {seen : List PendingRequest}
    (h : Visits s callers w seen w') {used : List SessionKey} {vacant : List ProxyId}
    (hw : Agrees used vacant w) (hfresh : (used ++ w'.bound.map (·.key)).Nodup) :
    Agrees used vacant w' := by
  induction h with
  | nil => exact hw
  | snoc _ hp ih =>
    -- the keys that were drawn by then are a part of all the keys
    refine hp.agrees (ih ?_) hfresh
    obtain ⟨xs, -, hbound⟩ := hp.active_eq
    rw [hbound, List.map_append, ← List.append_assoc] at hfresh
    exact (List.nodup_append.1 hfresh).1

end Sweep

/-- A pass over the queue keeps a registry tidy. -/
theorem Tidy.sweep {used : List SessionKey} {r : Registry ω} (h : Tidy used r)
    (callers : Callers) (memory : ω)
    (hfresh : (used ++ (r.sweep s callers memory).bound.map (·.key)).Nodup) :
    Tidy (used ++ (r.sweep s callers memory).bound.map (·.key))
      (r.sweep s callers memory).registry := by
  cases hstopped : r.stopped with
  | true =>
    rw [sweep_of_stopped hstopped]
    exact ⟨h.seated, fun x hx => List.mem_append_left _ (h.known x hx), h.vacant⟩
  | false =>
    obtain ⟨seen, unseen, w, hpassed⟩ := sweep_passed s callers hstopped memory
    rw [hpassed.bound_eq] at hfresh ⊢
    have hstart : Sweep.Agrees used r.registering (sweepStart r memory) :=
      ⟨h.seated, fun x hx => List.mem_append_left _ (h.known x hx), h.vacant⟩
    have hend := hpassed.visits.agrees hstart hfresh
    rw [hpassed.registry_eq]
    exact ⟨hend.seated, hend.known, hend.vacant⟩

section Tidy

variable {used : List SessionKey} {r r' : Registry ω}

theorem Tidy.release (hr : Tidy used r) {key : SessionKey} {reason : Termination}
    {out : Released ω} (h : r.release key reason = (some out, r')) : Tidy used r' := by
  obtain ⟨x, hx, _, rfl⟩ := release_eq h
  obtain ⟨hmem, rfl⟩ := session?_eq_some hx
  refine ⟨(hr.seated.release hmem).congr fun slot => ?_, fun y hy => ?_, fun id hid => ?_⟩
  · exact LiveProxies.sessionIn?_retire ..
  · exact hr.known y (mem_forget.1 hy).1
  · exact LiveProxies.get?_retire_eq_none _
      (LiveProxies.get?_vacate_eq_none _ _ (hr.vacant id hid))

theorem Tidy.removeProxy (hr : Tidy used r) {id : ProxyId} {reason : Termination}
    {out : Removed ω} (h : r.removeProxy id reason = (some out, r')) : Tidy used r' := by
  obtain ⟨e, he, _, rfl⟩ := removeProxy_eq h
  refine ⟨hr.seated.erase he, fun y hy => ?_, fun other hother => ?_⟩
  · exact hr.known y (mem_foldl_forget.1 hy).1
  · exact LiveProxies.get?_erase_eq_none _ (hr.vacant other hother)

/-- Nothing is registered any more under the identity that is taken. -/
theorem Tidy.stage (hr : Tidy used r) {id : ProxyId} {stale : Option (Removed ω)}
    (h : r.stage id = (.staged stale, r')) : Tidy used r' := by
  obtain ⟨_, _, h⟩ := stage_eq h
  cases stale with
  | none =>
    obtain ⟨hnone, rfl⟩ := eq_of_removeProxy_none h
    refine ⟨hr.seated, hr.known, fun other hother => ?_⟩
    rcases List.mem_cons.1 hother with rfl | hother
    · exact hnone
    · exact hr.vacant other hother
  | some out =>
    obtain ⟨e, he, _, rfl⟩ := removeProxy_eq h
    refine ⟨hr.seated.erase he, fun y hy => ?_, fun other hother => ?_⟩
    · exact hr.known y (mem_foldl_forget.1 hy).1
    · rcases List.mem_cons.1 hother with rfl | hother
      · rw [KeyMap.get?_erase, if_pos rfl]
      · exact LiveProxies.get?_erase_eq_none _ (hr.vacant other hother)

/-- The identity of a proxy that is registered was taken, so no other proxy is overwritten. -/
theorem Tidy.promote (hr : Tidy used r) {p : Proxy ω} {prepared : Bool} {outcome : Promotion}
    (h : r.promote p prepared = (outcome, r'))
    (htaken : r.stopped = false → p.id ∈ r.registering) : Tidy used r' := by
  obtain ⟨hlive, rfl⟩ := promote_eq h
  by_cases ho : outcome = .live
  · have hnone : r.live.get? p.id = none := hr.vacant p.id (htaken (hlive ho))
    simp only [ho, if_true]
    refine ⟨hr.seated.congr (LiveProxies.sessionIn?_insert_fresh hnone), hr.known,
      fun id hid => ?_⟩
    obtain ⟨hid, hne⟩ := List.mem_filter.1 hid
    rw [KeyMap.get?_insert, if_neg (by simpa using hne), hr.vacant id hid]
  · simp only [ho, if_false]
    exact ⟨hr.seated, hr.known, fun id hid => hr.vacant id (List.mem_filter.1 hid).1⟩

theorem Tidy.stop {out : Stopped ω} (h : r.stop = (some out, r')) : Tidy used r' := by
  obtain ⟨_, _, _, rfl⟩ := stop_eq h
  exact ⟨.empty, fun _ hx => absurd hx List.not_mem_nil, fun _ hid => absurd hid List.not_mem_nil⟩

/-- A section of an operation keeps a registry tidy. -/
theorem Section.tidy {freed : Option ProxyId} {news : List News}
    (h : Section s callers r freed r' news) (hr : Tidy used r)
    (hfreed : r.stopped = false → ∀ id ∈ freed, id ∈ r.registering)
    (hfresh : (used ++ (news.filterMap News.bound?).map (·.key)).Nodup) :
    Tidy (used ++ (news.filterMap News.bound?).map (·.key)) r' := by
  have hquiet (hnone : news.filterMap News.bound? = []) (hr' : Tidy used r') :
      Tidy (used ++ (news.filterMap News.bound?).map (·.key)) r' := by
    rwa [hnone, List.map_nil, List.append_nil]
  cases h with
  | idle => exact hquiet rfl hr
  | released h => exact hquiet rfl (hr.release h)
  | removed h => exact hquiet (filterMap_bound?_removed _) (hr.removeProxy h)
  | staged h => exact hquiet rfl (hr.stage h)
  | replaced h => exact hquiet (filterMap_bound?_removed _) (hr.stage h)
  | @promoted p _ _ _ h =>
    exact hquiet (by split <;> rfl) (hr.promote h fun hrunning => hfreed hrunning p.id rfl)
  | swept memory =>
    rw [filterMap_bound?_news] at hfresh ⊢
    exact hr.sweep callers memory hfresh
  | stopped h =>
    refine hquiet ?_ (.stop h)
    rw [List.filterMap_append, filterMap_bound?_dropped, filterMap_bound?_ended, List.append_nil]

end Tidy

end BrowserGrid.Registry
