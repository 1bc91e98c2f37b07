import BrowserGrid.Registry.Slots
import Mathlib.Data.List.Basic

/-!
# What the slots hold

`LiveProxies.sessionIn?` is the view of the registered proxies that matters to sessions: the session
on a slot, if the slot exists and is busy.  Each operation on the proxies is given by what it does
to this view: `occupy?` sets one free slot, `vacate` clears one, `retire` and the registration of a
new proxy change nothing, and `erase` clears the slots of one proxy.
-/

namespace BrowserGrid.Registry

variable {ω : Type}

/-! ### One proxy -/

/-- The session on a slot of a proxy. -/
def Entry.sessionAt (e : Entry ω) (index : Nat) : Option SessionKey :=
  (e.slots[index]?).bind (·.session)

theorem Entry.sessionAt_fresh (p : Proxy ω) (index : Nat) :
    (Entry.fresh p).sessionAt index = none := by
  rw [sessionAt, fresh, List.getElem?_map]
  cases p.slots[index]? <;> rfl

theorem Entry.sessionAt_setSlot (e : Entry ω) (index other : Nat) (session : Option SessionKey)
    (h : index < e.slots.length) :
    (e.setSlot index session).sessionAt other =
      if other = index then session else e.sessionAt other := by
  rw [sessionAt, setSlot, List.getElem?_modify]
  by_cases hi : other = index
  · rw [hi, if_pos rfl, List.getElem?_eq_getElem h]
    simp
  · rw [if_neg hi, sessionAt]
    cases e.slots[other]? <;> simp [Ne.symm hi]

theorem Entry.sessionAt_of_isIdle {e : Entry ω} (h : e.isIdle) (index : Nat) :
    e.sessionAt index = none := by
  rw [sessionAt]
  cases hs : e.slots[index]? with
  | none => rfl
  | some slot =>
    have hidle := List.all_eq_true.1 h slot (List.mem_of_getElem? hs)
    exact Option.isNone_iff_eq_none.1 hidle

theorem Entry.mem_sessions {e : Entry ω} {key : SessionKey} :
    key ∈ e.sessions ↔ ∃ index, e.sessionAt index = some key := by
  rw [sessions, List.mem_filterMap]
  constructor
  · rintro ⟨slot, hslot, hkey⟩
    obtain ⟨index, hindex⟩ := List.getElem?_of_mem hslot
    exact ⟨index, by rw [sessionAt, hindex, Option.bind_some, hkey]⟩
  · rintro ⟨index, h⟩
    obtain ⟨slot, hslot, hkey⟩ := Option.bind_eq_some_iff.1 h
    exact ⟨slot, List.mem_of_getElem? hslot, hkey⟩

/-! ### All proxies -/

namespace LiveProxies

theorem sessionIn?_eq (live : LiveProxies ω) (slot : SlotId) :
    sessionIn? live slot = (live.get? slot.proxy).bind (·.sessionAt slot.index) := by
  cases hget : live.get? slot.proxy with
  | none => simp [sessionIn?, slot?, hget]
  | some e => simp [sessionIn?, slot?, hget, Entry.sessionAt]

theorem sessionIn?_eq_some {live : LiveProxies ω} {slot : SlotId} {key : SessionKey} :
    sessionIn? live slot = some key ↔
      ∃ e, live.get? slot.proxy = some e ∧ e.sessionAt slot.index = some key := by
  rw [sessionIn?_eq, Option.bind_eq_some_iff]

@[simp] theorem sessionIn?_empty (slot : SlotId) :
    sessionIn? (KeyMap.empty : LiveProxies ω) slot = none := rfl

theorem sessionIn?_insert (live : LiveProxies ω) (id : ProxyId) (e : Entry ω) (slot : SlotId) :
    sessionIn? (live.insert id e) slot =
      if slot.proxy = id then e.sessionAt slot.index else sessionIn? live slot := by
  rw [sessionIn?_eq, KeyMap.get?_insert, sessionIn?_eq]
  split <;> rfl

theorem sessionIn?_erase (live : LiveProxies ω) (id : ProxyId) (slot : SlotId) :
    sessionIn? (live.erase id) slot = if slot.proxy = id then none else sessionIn? live slot := by
  rw [sessionIn?_eq, KeyMap.get?_erase, sessionIn?_eq]
  split <;> rfl

/-- A new proxy brings no session, and takes none away if its identity was free. -/
theorem sessionIn?_insert_fresh {live : LiveProxies ω} {p : Proxy ω}
    (h : live.get? p.id = none) (slot : SlotId) :
    sessionIn? (live.insert p.id (.fresh p)) slot = sessionIn? live slot := by
  rw [sessionIn?_insert]
  split
  · rename_i hid
    rw [Entry.sessionAt_fresh, sessionIn?_eq, hid, h, Option.bind_none]
  · rfl

/-- Another session on one slot of a registered proxy. -/
theorem sessionIn?_insert_setSlot {live : LiveProxies ω} {slot : SlotId} {e e' : Entry ω}
    {session : Option SessionKey} (hget : live.get? slot.proxy = some e)
    (hlt : slot.index < e.slots.length) (he' : e'.slots = (e.setSlot slot.index session).slots)
    (other : SlotId) :
    sessionIn? (live.insert slot.proxy e') other =
      if other = slot then session else sessionIn? live other := by
  -- on the proxy of the slot only its index is set
  have hat : ∀ index, e'.sessionAt index = if index = slot.index then session
      else e.sessionAt index := fun index => by
    rw [← Entry.sessionAt_setSlot e slot.index index session hlt, Entry.sessionAt, he',
      Entry.sessionAt]
  obtain ⟨proxy, index⟩ := slot
  obtain ⟨proxy', index'⟩ := other
  rw [sessionIn?_insert, hat, sessionIn?_eq]
  simp only [SlotId.mk.injEq] at hget ⊢
  -- a slot of another proxy is looked up in the other registrations
  by_cases hp : proxy' = proxy
  · simp only [hp, hget, true_and, Option.bind_some, if_true]
  · simp only [hp, false_and, if_false]

/-- What `occupy?` does: the slot exists and is free, and holds the session afterwards. -/
theorem sessionIn?_occupy {live live' : LiveProxies ω} {slot : SlotId} {key : SessionKey}
    (h : occupy? live slot key = some live') :
    sessionIn? live slot = none ∧ ∀ other, sessionIn? live' other =
      if other = slot then some key else sessionIn? live other := by
  simp only [occupy?, Option.bind_eq_bind, Option.bind_eq_some_iff] at h
  obtain ⟨e, hget, place, hplace, h⟩ := h
  split at h
  · exact absurd h (by simp)
  · rename_i hfree
    obtain rfl := Option.some.inj h
    have hlt : slot.index < e.slots.length := (List.getElem?_eq_some_iff.1 hplace).1
    constructor
    · rw [sessionIn?_eq, hget, Option.bind_some, Entry.sessionAt, hplace, Option.bind_some]
      simpa using hfree
    · exact sessionIn?_insert_setSlot hget hlt (by rfl)

theorem vacate_eq {live : LiveProxies ω} {slot : SlotId} {key : SessionKey} {e : Entry ω}
    (hget : live.get? slot.proxy = some e) (hat : e.sessionAt slot.index = some key) :
    vacate live slot key = live.insert slot.proxy (e.setSlot slot.index none) := by
  rw [Entry.sessionAt] at hat
  simp only [vacate, hget, hat, if_true]

/-- What `vacate` does to a slot that holds the session. -/
theorem sessionIn?_vacate {live : LiveProxies ω} {slot : SlotId} {key : SessionKey}
    (h : sessionIn? live slot = some key) (other : SlotId) :
    sessionIn? (vacate live slot key) other =
      if other = slot then none else sessionIn? live other := by
  obtain ⟨e, hget, hat⟩ := sessionIn?_eq_some.1 h
  obtain ⟨place, hplace, _⟩ := Option.bind_eq_some_iff.1 hat
  have hlt : slot.index < e.slots.length := (List.getElem?_eq_some_iff.1 hplace).1
  rw [vacate_eq hget hat, sessionIn?_insert_setSlot hget hlt rfl]

/-- Only a proxy without sessions is retired. -/
theorem sessionIn?_retire (live : LiveProxies ω) (id : ProxyId) (slot : SlotId) :
    sessionIn? (retire live id).2 slot = sessionIn? live slot := by
  unfold retire
  split
  · rename_i e hget
    split
    · rename_i hspent
      -- a spent proxy is idle, so what is erased with it is empty slots
      have hidle : e.isIdle := by
        simp only [Bool.and_eq_true] at hspent
        exact hspent.2
      rw [sessionIn?_erase]
      split
      · rename_i hid
        rw [sessionIn?_eq, hid, hget, Option.bind_some, Entry.sessionAt_of_isIdle hidle]
      · rfl
    · rfl
  · rfl

/-! ### Identities without a proxy -/

theorem get?_occupy_eq_none {live live' : LiveProxies ω} {slot : SlotId} {key : SessionKey}
    (h : occupy? live slot key = some live') {id : ProxyId} (hid : live.get? id = none) :
    live'.get? id = none := by
  simp only [occupy?, Option.bind_eq_bind, Option.bind_eq_some_iff] at h
  obtain ⟨e, hget, _, _, h⟩ := h
  have hne : id ≠ slot.proxy := by
    rintro rfl
    rw [hid] at hget
    cases hget
  split at h
  · cases h
  · obtain rfl := Option.some.inj h
    rw [KeyMap.get?_insert, if_neg hne, hid]

theorem get?_vacate_eq_none {live : LiveProxies ω} (slot : SlotId) (key : SessionKey)
    {id : ProxyId} (hid : live.get? id = none) : (vacate live slot key).get? id = none := by
  unfold vacate
  split
  · rename_i e hget
    have hne : id ≠ slot.proxy := by
      rintro rfl
      rw [hid] at hget
      cases hget
    split
    · rw [KeyMap.get?_insert, if_neg hne, hid]
    · exact hid
  · exact hid

theorem get?_erase_eq_none {live : LiveProxies ω} (id : ProxyId) {other : ProxyId}
    (h : live.get? other = none) : (live.erase id).get? other = none := by
  rw [KeyMap.get?_erase, h, ite_self]

theorem get?_retire_eq_none {live : LiveProxies ω} (id : ProxyId) {other : ProxyId}
    (h : live.get? other = none) : (retire live id).2.get? other = none := by
  unfold retire
  split
  · split
    · exact get?_erase_eq_none id h
    · exact h
  · exact h

end LiveProxies

end BrowserGrid.Registry
