import BrowserGrid.Proofs.Registry.Frame
import BrowserGrid.Proofs.Registry.Greedy
import BrowserGrid.Proofs.Registry.Reservations
import BrowserGrid.Proofs.Registry.Visits

/-!
# Single-use proxies

A single-use proxy has taken no session, or it has taken one that is still on one of its slots
(`Entry.Once`).  The other slots of a proxy with a session are not offered, and the section that
takes the session away removes the proxy, so there is nothing in between.

What a registration comes to is read off the history: `System.tenures` lists the registrations of an
identity, each with the sessions that were bound to its slots until the next one.  The counter of a
registered proxy is the number of sessions of the latest (`Hosted`).

* `Section.entries`: a section that is neither a pass over the queue nor the end of a registration
  leaves the single-use proxies that it does not remove as they are.
* `System.single_use`: what holds of single-use proxies after every run.
-/

namespace BrowserGrid.Registry

variable {ω : Type} {s : Setting ω} {callers : Callers}

/-! ### One proxy -/

namespace Entry

/-- A single-use proxy has taken no session and no slot is busy, or one session that is on a slot. -/
def Once (e : Entry ω) : Prop :=
  e.proxy.singleUse = true →
    (e.served = 0 ∧ ∀ slot ∈ e.slots, slot.session = none) ∨
      (e.served = 1 ∧ e.slots.countP (·.session.isSome) = 1)

theorem once_fresh (p : Proxy ω) : (Entry.fresh p).Once := by
  refine fun _ => .inl ⟨rfl, fun slot hslot => ?_⟩
  obtain ⟨_, _, rfl⟩ := List.mem_map.1 hslot
  rfl

/-- A proxy that still takes sessions has taken none if it is single-use. -/
theorem Once.served_eq_zero {e : Entry ω} (he : e.Once) (haccepts : e.accepts = true)
    (hsingle : e.proxy.singleUse = true) :
    e.served = 0 ∧ ∀ slot ∈ e.slots, slot.session = none := by
  simp only [accepts, hsingle, Bool.true_and, Bool.not_eq_true', decide_eq_false_iff_not] at haccepts
  exact (he hsingle).resolve_right fun h => haccepts (by rw [h.1]; exact Nat.one_pos)

/-- A proxy with a session has taken one, and no other slot is busy. -/
theorem Once.served_eq_one {e : Entry ω} (he : e.Once) (hsingle : e.proxy.singleUse = true)
    {index : Nat} {key : SessionKey} (hat : e.sessionAt index = some key) :
    e.served = 1 ∧ e.slots.countP (·.session.isSome) = 1 := by
  refine (he hsingle).resolve_left fun h => ?_
  obtain ⟨slot, hslot, hkey⟩ := Option.bind_eq_some_iff.1 hat
  rw [h.2 slot (List.mem_of_getElem? hslot)] at hkey
  cases hkey

/-- A proxy that has taken a session is not idle. -/
theorem Once.not_idle {e : Entry ω} (he : e.Once) (hsingle : e.proxy.singleUse = true)
    (hserved : 0 < e.served) : e.isIdle = false := by
  obtain ⟨hzero, -⟩ | ⟨-, hbusy⟩ := he hsingle
  · rw [hzero] at hserved
    cases hserved
  · obtain ⟨slot, hslot, hsession⟩ := List.countP_pos_iff.1 (by rw [hbusy]; exact Nat.one_pos)
    refine List.all_eq_false.2 ⟨slot, hslot, ?_⟩
    rw [Option.isNone_iff_eq_none]
    exact Option.isSome_iff_ne_none.1 hsession

theorem countP_modify_of_none {slots : List Slot} (hfree : ∀ slot ∈ slots, slot.session = none)
    {index : Nat} (hindex : index < slots.length) (key : SessionKey) :
    (slots.modify index ({ · with session := some key })).countP (·.session.isSome) = 1 := by
  induction slots generalizing index with
  | nil => cases hindex
  | cons slot rest ih =>
    have hrest : ∀ other ∈ rest, other.session = none :=
      fun other hother => hfree other (List.mem_cons_of_mem _ hother)
    cases index with
    | zero =>
      have hnone : rest.countP (·.session.isSome) = 0 :=
        List.countP_eq_zero.2 fun other hother => by rw [hrest other hother]; exact Bool.false_ne_true
      rw [List.modify_zero_cons, List.countP_cons_of_pos rfl, hnone]
    | succ index =>
      rw [List.modify_succ_cons, List.countP_cons_of_neg (by simp [hfree slot List.mem_cons_self])]
      exact ih hrest (Nat.lt_of_succ_lt_succ hindex)

/-- A session on a free slot of a proxy that takes sessions. -/
theorem Once.hold {e : Entry ω} (he : e.Once) (haccepts : e.accepts = true) {index : Nat}
    (hindex : index < e.slots.length) (key : SessionKey) : (e.hold index key).Once := by
  intro hsingle
  obtain ⟨hserved, hfree⟩ := he.served_eq_zero haccepts hsingle
  exact .inr ⟨congrArg (· + 1) hserved, countP_modify_of_none hfree hindex key⟩

/-- The slot of the only session is the only busy one. -/
theorem isIdle_setSlot_none {e : Entry ω} (hbusy : e.slots.countP (·.session.isSome) = 1)
    {index : Nat} {key : SessionKey} (hat : e.sessionAt index = some key) :
    (e.setSlot index none).isIdle = true := by
  obtain ⟨slot, hslot, hkey⟩ := Option.bind_eq_some_iff.1 hat
  obtain ⟨hindex, hget⟩ := List.getElem?_eq_some_iff.1 hslot
  have hsplit : e.slots = e.slots.take index ++ slot :: e.slots.drop (index + 1) := by
    rw [← hget, List.getElem_cons_drop, List.take_append_drop]
  rw [hsplit, List.countP_append, List.countP_cons_of_pos (by rw [hkey]; rfl)] at hbusy
  have hbefore : (e.slots.take index).countP (·.session.isSome) = 0 := by omega
  have hafter : (e.slots.drop (index + 1)).countP (·.session.isSome) = 0 := by omega
  rw [isIdle, setSlot, List.modify_eq_take_cons_drop hindex, List.all_append, List.all_cons]
  have hnone : ∀ slots : List Slot, slots.countP (·.session.isSome) = 0 →
      slots.all (·.session.isNone) = true := fun slots h =>
    List.all_eq_true.2 fun other hother => by
      have := List.countP_eq_zero.1 h other hother
      simpa using this
  rw [hnone _ hbefore, hnone _ hafter]
  rfl

/-- A proxy whose session ends is spent. -/
theorem Once.spent {e : Entry ω} (he : e.Once) (hsingle : e.proxy.singleUse = true) {index : Nat}
    {key : SessionKey} (hat : e.sessionAt index = some key) :
    (!(e.setSlot index none).accepts && (e.setSlot index none).isIdle) = true := by
  obtain ⟨hserved, hbusy⟩ := he.served_eq_one hsingle hat
  rw [isIdle_setSlot_none hbusy hat, Bool.and_true, accepts]
  show (!!(e.proxy.singleUse && decide (e.served > 0))) = true
  rw [hsingle, hserved]
  rfl

end Entry

/-! ### What the sections leave of the proxies -/

namespace LiveProxies

/-- Every single-use proxy has taken one session at most. -/
def OnceEach (live : LiveProxies ω) : Prop := ∀ id e, live.get? id = some e → e.Once

/-- Some proxies are gone, and single-use ones that are not are as they were. -/
def Reduces (live live' : LiveProxies ω) : Prop :=
  ∀ id e', live'.get? id = some e' → ∃ e, live.get? id = some e ∧ e'.proxy = e.proxy ∧
    e'.served = e.served ∧ (e.proxy.singleUse = true → e'.slots = e.slots)

variable {live live' : LiveProxies ω}

theorem Reduces.refl (live : LiveProxies ω) : live.Reduces live :=
  fun _ e he => ⟨e, he, rfl, rfl, fun _ => rfl⟩

theorem Reduces.erase (live : LiveProxies ω) (id : ProxyId) : live.Reduces (live.erase id) := by
  intro other e he
  rw [KeyMap.get?_erase] at he
  split at he
  · cases he
  · exact ⟨e, he, rfl, rfl, fun _ => rfl⟩

theorem Reduces.insert {id : ProxyId} {e e' : Entry ω} (hget : live.get? id = some e)
    (hproxy : e'.proxy = e.proxy) (hserved : e'.served = e.served)
    (hslots : e.proxy.singleUse = true → e'.slots = e.slots) : live.Reduces (live.insert id e') := by
  intro other e'' he
  rw [KeyMap.get?_insert] at he
  split at he
  · rename_i hid
    obtain rfl := Option.some.inj he
    exact ⟨e, by rw [hid, hget], hproxy, hserved, hslots⟩
  · exact ⟨e'', he, rfl, rfl, fun _ => rfl⟩

theorem Reduces.erase_insert (live : LiveProxies ω) (id : ProxyId) (e : Entry ω) :
    live.Reduces ((live.insert id e).erase id) := by
  intro other e' he
  rw [KeyMap.get?_erase, KeyMap.get?_insert] at he
  split at he
  · cases he
  · exact ⟨e', he, rfl, rfl, fun _ => rfl⟩

theorem Reduces.onceEach (h : live.Reduces live') (hlive : live.OnceEach) : live'.OnceEach := by
  intro id e' he' hsingle
  obtain ⟨e, he, hproxy, hserved, hslots⟩ := h id e' he'
  rw [hproxy] at hsingle
  rw [hserved, hslots hsingle]
  exact hlive id e he hsingle

/-- A place that is free belongs to a proxy that takes sessions. -/
theorem exists_entry_of_isFree {place : Place ω} (hplace : place ∈ live.places)
    (hfree : place.isFree) :
    ∃ e, live.get? place.slot.proxy = some e ∧ e.accepts = true ∧
      place.slot.index < e.slots.length ∧ e.sessionAt place.slot.index = none ∧
      ∀ key, live.hold place.slot key =
        live.insert place.slot.proxy (e.hold place.slot.index key) := by
  obtain ⟨e, slot, he, hslot, hplace⟩ := mem_places.1 hplace
  rw [hplace] at hfree
  simp only [Place.isFree, Bool.and_eq_true, Option.isNone_iff_eq_none] at hfree
  refine ⟨e, he, hfree.2, (List.getElem?_eq_some_iff.1 hslot).1, ?_, fun key => ?_⟩
  · rw [Entry.sessionAt, hslot]
    exact hfree.1
  · rw [hold, KeyMap.modify, he]

theorem OnceEach.hold (hlive : live.OnceEach) {place : Place ω} (hplace : place ∈ live.places)
    (hfree : place.isFree) (key : SessionKey) : (live.hold place.slot key).OnceEach := by
  obtain ⟨e, he, haccepts, hindex, -, hhold⟩ := exists_entry_of_isFree hplace hfree
  intro id e' he'
  rw [hhold, KeyMap.get?_insert] at he'
  split at he'
  · obtain rfl := Option.some.inj he'
    exact (hlive _ e he).hold haccepts hindex key
  · exact hlive id e' he'

/-- The end of a session: its proxy is retired if it is single-use. -/
theorem Reduces.release (hlive : live.OnceEach) (slot : SlotId) (key : SessionKey) :
    live.Reduces (retire (vacate live slot key) slot.proxy).2 := by
  cases hget : live.get? slot.proxy with
  | none =>
    have hvacate : vacate live slot key = live := by rw [vacate, hget]
    rw [hvacate, retire, hget]
    exact .refl live
  | some e =>
    by_cases hat : e.sessionAt slot.index = some key
    · rw [vacate_eq hget hat]
      have hset : (live.insert slot.proxy (e.setSlot slot.index none)).get? slot.proxy =
          some (e.setSlot slot.index none) := by rw [KeyMap.get?_insert, if_pos rfl]
      by_cases hsingle : e.proxy.singleUse = true
      · rw [retire, hset]
        dsimp only
        rw [if_pos ((hlive _ e hget).spent hsingle hat)]
        exact .erase_insert live slot.proxy _
      · -- only a single-use proxy is retired
        rw [(retire_cases hset).resolve_right fun h => hsingle h.1]
        exact .insert hget rfl rfl fun h => absurd h hsingle
    · have hvacate : vacate live slot key = live := by
        rw [vacate, hget]
        exact if_neg hat
      rw [hvacate]
      unfold retire
      rw [hget]
      dsimp only
      split
      · exact .erase live slot.proxy
      · exact .refl live

end LiveProxies

/-- A section that is neither a pass over the queue nor the end of a registration registers nothing,
binds nothing and leaves the single-use proxies that it does not remove as they are. -/
theorem Section.entries {r r' : Registry ω} {news : List News}
    (h : Section s callers r none r' news) (hr : r.live.OnceEach) :
    (∃ memory, r' = (r.sweep s callers memory).registry ∧
        news = (r.sweep s callers memory).news) ∨
      r.live.Reduces r'.live ∧ news.filterMap News.bound? = [] := by
  generalize hfreed : (none : Option ProxyId) = freed at h
  cases h with
  | idle => exact .inr ⟨.refl _, rfl⟩
  | released h =>
    obtain ⟨x, -, -, rfl⟩ := release_eq h
    exact .inr ⟨.release hr x.slot _, rfl⟩
  | removed h =>
    obtain ⟨e, -, -, rfl⟩ := removeProxy_eq h
    exact .inr ⟨.erase r.live _, by simp [News.bound?]⟩
  | staged h =>
    obtain ⟨-, rfl⟩ := eq_of_removeProxy_none (stage_eq h).2.2
    exact .inr ⟨.refl _, rfl⟩
  | replaced h =>
    obtain ⟨e, -, -, rfl⟩ := removeProxy_eq (stage_eq h).2.2
    exact .inr ⟨.erase r.live _, by simp [News.bound?]⟩
  | promoted => cases hfreed
  | swept memory => exact .inl ⟨memory, rfl, rfl⟩
  | stopped h =>
    obtain ⟨-, -, -, rfl⟩ := stop_eq h
    refine .inr ⟨fun id e he => ?_, ?_⟩
    · rw [KeyMap.get?_empty] at he
      cases he
    · rw [List.filterMap_append, filterMap_bound?_dropped, filterMap_bound?_ended]
      rfl

/-! ### What a registration comes to -/

/-- A registration of a proxy, and the sessions that have been bound to its slots since. -/
structure Tenure (ω : Type) where
  proxy : Proxy ω
  sessions : List Session := []

/-- The registrations of an identity, the latest first, after a session was bound. -/
def Tenure.host (id : ProxyId) (x : Session) (tenures : List (Tenure ω)) : List (Tenure ω) :=
  match tenures with
  | t :: earlier =>
    if x.slot.proxy = id then { t with sessions := t.sessions ++ [x] } :: earlier else tenures
  | [] => []

/-- The registrations of an identity, the latest first, after an event. -/
def Event.tenures (id : ProxyId) (tenures : List (Tenure ω)) : Event ω → List (Tenure ω)
  | .answered _ (.add p) (.added true) => if p.id = id then ⟨p, []⟩ :: tenures else tenures
  | .reported _ _ (.bound x) => Tenure.host id x tenures
  | _ => tenures

/-- The registrations of the identity `id`, the latest first, and its entry, if there is one: the
sessions of all `tenures` together are those of `created` on slots of `id`, and the latest has as
many as the entry has `served`. -/
structure Hosted (id : ProxyId) (entry : Option (Entry ω)) (tenures : List (Tenure ω))
    (created : List Session) : Prop where
  /-- A single-use proxy has taken one session at most. -/
  once : ∀ t ∈ tenures, t.proxy.singleUse = true → t.sessions.length ≤ 1
  /-- The counter of a registered proxy says how many sessions it has taken. -/
  current : ∀ e, entry = some e → ∃ sessions earlier,
    tenures = ⟨e.proxy, sessions⟩ :: earlier ∧ e.served = sessions.length
  /-- All sessions on the slots of the identity belong to a registration. -/
  whole : tenures.reverse.flatMap (·.sessions) = created.filter (·.slot.proxy = id)

namespace Hosted

variable {id : ProxyId} {entry : Option (Entry ω)} {tenures : List (Tenure ω)}
  {created : List Session}

theorem empty (id : ProxyId) : Hosted id (none : Option (Entry ω)) [] [] where
  once := fun _ h => absurd h List.not_mem_nil
  current := fun _ h => nomatch h
  whole := rfl

/-- Whatever else happens to the proxy. -/
theorem mono (h : Hosted id entry tenures created) {entry' : Option (Entry ω)}
    (hentry : ∀ e', entry' = some e' →
      ∃ e, entry = some e ∧ e'.proxy = e.proxy ∧ e'.served = e.served) :
    Hosted id entry' tenures created where
  once := h.once
  current := fun e' he' => by
    obtain ⟨e, he, hproxy, hserved⟩ := hentry e' he'
    rw [hproxy, hserved]
    exact h.current e he
  whole := h.whole

/-- A new registration. -/
theorem register (h : Hosted id entry tenures created) (p : Proxy ω) :
    Hosted id (some (.fresh p)) (⟨p, []⟩ :: tenures) created where
  once := by
    intro t ht hsingle
    rcases List.mem_cons.1 ht with rfl | ht
    · exact Nat.zero_le 1
    · exact h.once t ht hsingle
  current := by
    rintro e ⟨⟩
    exact ⟨[], tenures, rfl, rfl⟩
  whole := by
    rw [List.reverse_cons, List.flatMap_append, h.whole]
    exact List.append_nil _

/-- A session on a slot of another identity. -/
theorem other (h : Hosted id entry tenures created) {x : Session} (hx : x.slot.proxy ≠ id) :
    Hosted id entry (Tenure.host id x tenures) (created ++ [x]) := by
  have hsame : Tenure.host id x tenures = tenures := by
    cases tenures with
    | nil => rfl
    | cons => exact if_neg hx
  rw [hsame]
  refine ⟨h.once, h.current, ?_⟩
  rw [List.filter_append, List.filter_cons_of_neg (by simpa using hx), List.filter_nil,
    List.append_nil, h.whole]

/-- A session on a slot of the registered proxy, which still takes sessions. -/
theorem hold {e : Entry ω} (h : Hosted id (some e) tenures created) (haccepts : e.accepts = true)
    {x : Session} (hx : x.slot.proxy = id) (index : Nat) (key : SessionKey) :
    Hosted id (some (e.hold index key)) (Tenure.host id x tenures) (created ++ [x]) := by
  obtain ⟨sessions, earlier, rfl, hserved⟩ := h.current e rfl
  have hhost : Tenure.host id x (⟨e.proxy, sessions⟩ :: earlier) =
      ⟨e.proxy, sessions ++ [x]⟩ :: earlier := if_pos hx
  rw [hhost]
  constructor
  · intro t ht hsingle
    rcases List.mem_cons.1 ht with rfl | ht
    · -- the proxy takes no session after the first
      replace hsingle : e.proxy.singleUse = true := hsingle
      simp only [Entry.accepts, hsingle, Bool.true_and, Bool.not_eq_true',
        decide_eq_false_iff_not, hserved] at haccepts
      rw [List.length_append, List.length_singleton]
      omega
    · exact h.once t (List.mem_cons_of_mem _ ht) hsingle
  · rintro e' ⟨⟩
    exact ⟨sessions ++ [x], earlier, rfl, by rw [List.length_append, ← hserved]; rfl⟩
  · have hwhole := h.whole
    rw [List.reverse_cons, List.flatMap_append, List.flatMap_singleton] at hwhole ⊢
    rw [List.filter_append, ← hwhole, List.filter_cons_of_pos (by simpa using hx), List.filter_nil,
      List.append_assoc]

end Hosted

/-- Every single-use proxy has taken one session at most, in all its registrations. -/
structure Sparing (live : LiveProxies ω) (tenures : ProxyId → List (Tenure ω))
    (created : List Session) : Prop where
  onceEach : live.OnceEach
  hosted : ∀ id, Hosted id (live.get? id) (tenures id) created

namespace Sparing

variable {live live' : LiveProxies ω} {tenures : ProxyId → List (Tenure ω)}
  {created : List Session}

theorem reduces (h : Sparing live tenures created) (hlive : live.Reduces live') :
    Sparing live' tenures created where
  onceEach := hlive.onceEach h.onceEach
  hosted := fun id => (h.hosted id).mono fun e' he' => by
    obtain ⟨e, he, hproxy, hserved, -⟩ := hlive id e' he'
    exact ⟨e, he, hproxy, hserved⟩

theorem register (h : Sparing live tenures created) (p : Proxy ω) :
    Sparing (live.insert p.id (.fresh p))
      (fun id => if p.id = id then ⟨p, []⟩ :: tenures id else tenures id) created where
  onceEach := by
    intro id e he
    rw [KeyMap.get?_insert] at he
    split at he
    · obtain rfl := Option.some.inj he
      exact Entry.once_fresh p
    · exact h.onceEach id e he
  hosted := by
    intro id
    rw [KeyMap.get?_insert]
    by_cases hid : p.id = id
    · rw [if_pos hid, if_pos hid.symm]
      exact (h.hosted id).register p
    · rw [if_neg hid, if_neg (Ne.symm hid)]
      exact h.hosted id

/-- A session on a free slot. -/
theorem hold (h : Sparing live tenures created) {place : Place ω} {x : Session}
    (hplace : place ∈ live.places) (hfree : place.isFree) (hx : x.slot = place.slot) :
    Sparing (live.hold place.slot x.key) (fun id => Tenure.host id x (tenures id))
      (created ++ [x]) where
  onceEach := h.onceEach.hold hplace hfree x.key
  hosted := by
    intro id
    obtain ⟨e, he, haccepts, -, -, hhold⟩ := LiveProxies.exists_entry_of_isFree hplace hfree
    have hid := h.hosted id
    rw [hhold, KeyMap.get?_insert]
    split
    · rename_i heq
      rw [heq] at hid ⊢
      rw [he] at hid
      exact hid.hold haccepts (by rw [hx]) _ _
    · rename_i hne
      exact hid.other (by rw [hx]; exact Ne.symm hne)

/-- A pass over the queue. -/
theorem sweep {r : Registry ω} (h : Sparing r.live tenures created) (memory : ω) :
    Sparing (r.sweep s callers memory).registry.live
      (fun id => (r.sweep s callers memory).bound.foldl (fun ts x => Tenure.host id x ts)
        (tenures id))
      (created ++ (r.sweep s callers memory).bound) := by
  refine sweep_holds
    (P := fun live bound => Sparing live
      (fun id => bound.foldl (fun ts x => Tenure.host id x ts) (tenures id)) (created ++ bound))
    ?_ (by rw [List.append_nil]; exact h) memory
  intro live bound place x hplace hfree hx hlive
  simp only [List.foldl_append, List.foldl_cons, List.foldl_nil, ← List.append_assoc]
  exact hlive.hold hplace hfree hx

end Sparing

/-! ### Runs -/

namespace System

variable {σ τ : System ω}

/-- The registrations of an identity, the latest first, each with the sessions that were bound to
its slots until the next. -/
def tenures (σ : System ω) (id : ProxyId) : List (Tenure ω) :=
  σ.history.foldl (Event.tenures id) []

theorem tenures_append {events : List (Event ω)} (h : τ.history = σ.history ++ events)
    (id : ProxyId) : τ.tenures id = events.foldl (Event.tenures id) (σ.tenures id) := by
  rw [tenures, h, List.foldl_append, tenures]

theorem foldl_tenures_reported (id : ProxyId) (ticket : Nat) (op : Operation ω) (news : List News)
    (ts : List (Tenure ω)) :
    (news.map (Event.reported ticket op)).foldl (Event.tenures id) ts =
      (news.filterMap News.bound?).foldl (fun ts x => Tenure.host id x ts) ts := by
  induction news generalizing ts with
  | nil => rfl
  | cons n news ih => cases n <;> exact ih _

/-- A section that does not end a registration. -/
theorem tenures_turn {turn : Turn ω} {ticket : Nat} {op : Operation ω}
    (hhistory : τ.history = σ.history ++ turn.events ticket op)
    (hnext : turn.next ≠ .answers (.added true)) (id : ProxyId) :
    τ.tenures id = (turn.news.filterMap News.bound?).foldl (fun ts x => Tenure.host id x ts)
      (σ.tenures id) := by
  rw [tenures_append hhistory, Turn.events, List.foldl_append, foldl_tenures_reported,
    List.foldl_cons, List.foldl_nil]
  cases h : turn.next with
  | waits => rfl
  | answers answer =>
    cases op with
    | add p =>
      cases answer with
      | added live =>
        cases live with
        | true => exact absurd h hnext
        | false => rfl
      | removed | released | swept | broken | stopped => rfl
    | remove | release | forceRelease | sweep | stop => rfl

end System

theorem releaseTurn_ne_added {r : Registry ω} {memory : ω} {key : SessionKey}
    {reason : Termination} {spent : Session → Proxy ω → Call ω} {after : Option Session → Next ω}
    (hafter : ∀ x, after x ≠ .answers (.added true)) :
    (releaseTurn r memory key reason spent after).next ≠ .answers (.added true) := by
  rcases releaseTurn_next_cases r memory key reason spent after with ⟨x, h⟩ | ⟨x, p, h⟩ <;> rw [h]
  · exact hafter x
  · exact fun h => nomatch h

theorem afterReturn_ne_added (keys : List SessionKey) (toProvision : List Request) :
    (afterReturn keys toProvision : Next ω) ≠ .answers (.added true) := by
  unfold afterReturn
  split <;> exact fun h => nomatch h

/-- No registration ends with its first section. -/
theorem start_ne_added (callers : Callers) (r : Registry ω) (memory : ω) (op : Operation ω) :
    (op.start s callers r memory).next ≠ .answers (.added true) := by
  have hbegins := start_begins s callers r memory op
  generalize op.start s callers r memory = turn at hbegins ⊢
  cases hbegins with
  | released key reason => exact releaseTurn_ne_added fun _ h => nomatch h
  | refused | staged | replaced | missing | removed | vacant | occupied | broken | swept | returning
  | halted | stopped =>
    exact fun h => nomatch h

theorem releaseTurn_reduces {r : Registry ω} (hr : r.live.OnceEach) (memory : ω)
    (key : SessionKey) (reason : Termination) (spent : Session → Proxy ω → Call ω)
    (after : Option Session → Next ω) :
    r.live.Reduces (releaseTurn r memory key reason spent after).registry.live := by
  unfold releaseTurn
  split
  · rename_i h
    rw [(eq_of_release_none h).2]
    exact .refl _
  all_goals
    rename_i h
    obtain ⟨x, -, -, rfl⟩ := release_eq h
    exact .release hr x.slot key

/-- A later section registers its proxy, or it registers nothing and leaves the single-use proxies
that it does not remove as they are. -/
theorem resume_entries {r : Registry ω} (hr : r.live.OnceEach) (memory : ω) (prepared : Bool)
    (c : Call ω) :
    (∃ p, c = .preparing p ∧ r.stopped = false ∧
      (c.resume r memory prepared).registry.live = r.live.insert p.id (.fresh p) ∧
      (c.resume r memory prepared).news = [.changed] ∧
      (c.resume r memory prepared).next = .answers (.added true)) ∨
    (c.resume r memory prepared).next ≠ .answers (.added true) ∧
      r.live.Reduces (c.resume r memory prepared).registry.live := by
  cases c with
  | preparing p =>
    unfold Call.resume
    dsimp only
    split
    · rename_i h
      obtain ⟨-, rfl⟩ := promote_eq h
      exact .inr ⟨fun h => (nomatch h), .refl r.live⟩
    · rename_i h
      obtain ⟨-, rfl⟩ := promote_eq h
      exact .inr ⟨fun h => (nomatch h), .refl r.live⟩
    · rename_i h
      obtain ⟨hrunning, rfl⟩ := promote_eq h
      exact .inl ⟨p, rfl, hrunning rfl, rfl, rfl, rfl⟩
  | forcing key reason =>
    exact .inr ⟨releaseTurn_ne_added fun _ h => (nomatch h), releaseTurn_reduces hr _ _ _ _ _⟩
  | returning keys toProvision =>
    cases keys with
    | nil => exact .inr ⟨fun h => (nomatch h), .refl r.live⟩
    | cons key keys =>
      exact .inr ⟨releaseTurn_ne_added fun _ => afterReturn_ne_added _ _,
        releaseTurn_reduces hr _ _ _ _ _⟩
  | retiring spent keys toProvision => exact .inr ⟨afterReturn_ne_added _ _, .refl r.live⟩
  | clearing | discarding | removing | releasing | stopping =>
    exact .inr ⟨fun h => (nomatch h), .refl r.live⟩

/-- A later section binds nothing. -/
theorem resume_bound (r : Registry ω) (memory : ω) (prepared : Bool) (c : Call ω) :
    (c.resume r memory prepared).news.filterMap News.bound? = [] := by
  refine List.filterMap_eq_nil_iff.2 fun n hn => ?_
  rcases resume_news hn with rfl | ⟨y, rfl⟩ <;> rfl

namespace System

variable {σ τ : System ω}

/-- The step from `σ` to `τ`, sorted by how it changes `registry.live`, `tenures` and `created`. -/
inductive Rehoused (s : Setting ω) (σ τ : System ω) : Prop where
  /-- A pass over the queue. -/
  | swept {callers : Callers} {memory : ω}
    (hlive : τ.registry.live = (σ.registry.sweep s callers memory).registry.live)
    (htenures : τ.tenures = fun id => (σ.registry.sweep s callers memory).bound.foldl
      (fun ts x => Tenure.host id x ts) (σ.tenures id))
    (hcreated : τ.created = σ.created ++ (σ.registry.sweep s callers memory).bound)
  /-- The end of a registration. -/
  | registered {p : Proxy ω} (hunderway : ∃ c ∈ σ.calls, c.call = .preparing p)
    (hrunning : σ.registry.stopped = false)
    (hlive : τ.registry.live = σ.registry.live.insert p.id (.fresh p))
    (htenures : τ.tenures = fun id =>
      if p.id = id then ⟨p, []⟩ :: σ.tenures id else σ.tenures id)
    (hcreated : τ.created = σ.created)
  /-- Nothing is registered and nothing is bound. -/
  | reduced (hlive : σ.registry.live.Reduces τ.registry.live) (htenures : τ.tenures = σ.tenures)
    (hcreated : τ.created = σ.created)

/-- A step without events that registrations or sessions are read off. -/
theorem Rehoused.of_events (hlive : τ.registry.live = σ.registry.live) {events : List (Event ω)}
    (hhistory : τ.history = σ.history ++ events) (hcreated : τ.created = σ.created)
    (htenures : ∀ e ∈ events, ∀ id ts, Event.tenures id ts e = ts) : Rehoused s σ τ := by
  refine .reduced (hlive ▸ .refl _) (funext fun id => ?_) hcreated
  rw [tenures_append hhistory]
  exact (List.foldl_ext _ (fun ts _ => ts) _ fun ts e he => htenures e he id ts).trans
    (List.foldl_fixed events)

theorem Moved.rehoused (h : Moved s σ τ) (hguarded : σ.Guarded)
    (hσ : σ.registry.live.OnceEach) : Rehoused s σ τ := by
  cases h.involved with
  | apart h =>
    obtain ⟨events, hhistory, hevents⟩ := h.history
    refine .of_events h.live hhistory h.created_eq fun e he id ts => ?_
    have hticket := hevents e he
    cases e with
    | submitted | withdrawal => rfl
    | reported | paused | answered | abandoned => cases hticket
  | abandoned _ _ hregistry _ hhistory =>
    have hcreated := (created_append hhistory).trans (List.append_nil σ.created)
    refine .of_events (by rw [hregistry]) hhistory hcreated fun e he id ts => ?_
    rw [List.mem_singleton.1 he]
    rfl
  | begun ticket op callers hregistry _ hhistory =>
    have hcreated := (created_append hhistory).trans
      (congrArg _ (filterMap_bound?_events _ ticket op))
    have htenures := funext
      (tenures_turn hhistory (start_ne_added callers σ.registry σ.memory op))
    rcases (start_section callers σ.registry σ.memory op).entries hσ with
      ⟨memory, hswept, hnews⟩ | ⟨hreduces, hnews⟩
    · rw [hnews, filterMap_bound?_news] at hcreated htenures
      exact .swept (by rw [hregistry, hswept]) htenures hcreated
    · rw [hnews] at hcreated htenures
      exact .reduced (hregistry ▸ hreduces) htenures (hcreated.trans (List.append_nil _))
  | resumed c hc prepared hregistry _ hhistory =>
    have hcreated := (created_append hhistory).trans
      (congrArg _ (filterMap_bound?_events _ c.ticket c.operation))
    rw [resume_bound, List.append_nil] at hcreated
    rcases resume_entries hσ σ.memory prepared c.call with
      ⟨p, hcall, hrunning, hlive, hnews, hnext⟩ | ⟨hnext, hreduces⟩
    · -- the operation is the registration of the proxy, so its answer is too
      have hop : c.operation = .add p := hguarded.fitting c hc p (by rw [hcall]; rfl)
      refine .registered ⟨c, hc, hcall⟩ hrunning (by rw [hregistry, hlive]) ?_ hcreated
      funext id
      rw [tenures_append hhistory, Turn.events, hnews, hnext, hop]
      rfl
    · have htenures := funext (tenures_turn hhistory hnext)
      rw [resume_bound] at htenures
      exact .reduced (hregistry ▸ hreduces) htenures hcreated

theorem Rehoused.sparing (h : Rehoused s σ τ)
    (hσ : Sparing σ.registry.live σ.tenures σ.created) :
    Sparing τ.registry.live τ.tenures τ.created := by
  cases h with
  | swept hlive htenures hcreated =>
    rw [hlive, htenures, hcreated]
    exact hσ.sweep _
  | registered _ _ hlive htenures hcreated =>
    rw [hlive, htenures, hcreated]
    exact hσ.register _
  | reduced hlive htenures hcreated =>
    rw [htenures, hcreated]
    exact hσ.reduces hlive

theorem sparing_run (memory : ω) (actions : List (Action ω)) {σ : System ω}
    (hσ : (initial memory).run s actions = σ) : Sparing σ.registry.live σ.tenures σ.created := by
  subst hσ
  have hstart : Sparing (initial memory).registry.live (initial memory).tenures
      (initial memory).created := by
    refine ⟨fun id e he => ?_, fun id => Hosted.empty id⟩
    rw [show (initial memory).registry.live = KeyMap.empty from rfl, KeyMap.get?_empty] at he
    cases he
  have hboth := run_induction (s := s)
    (P := fun σ => σ.Guarded ∧ Sparing σ.registry.live σ.tenures σ.created)
    (fun σ a h => ⟨h.1.of_moved (step_moved σ a),
      ((step_moved σ a).rehoused h.1 h.2.onceEach).sparing h.2⟩)
    ⟨Guarded.initial memory, hstart⟩ actions
  exact hboth.2

end System

/-! ### The end of the session -/

/-- A pass over the queue does not touch a single-use proxy with a session. -/
theorem sweep_spares {r : Registry ω} (hr : r.live.OnceEach) {slot : SlotId} {key : SessionKey}
    {e : Entry ω} (he : r.live.get? slot.proxy = some e) (hsingle : e.proxy.singleUse = true)
    (hat : e.sessionAt slot.index = some key) (memory : ω) :
    (r.sweep s callers memory).registry.live.get? slot.proxy = some e := by
  refine sweep_holds (P := fun live _ => live.get? slot.proxy = some e) ?_ he memory
  intro live bound place x hplace hfree _ hlive
  obtain ⟨e', he', haccepts, -, -, hhold⟩ := LiveProxies.exists_entry_of_isFree hplace hfree
  have hother : slot.proxy ≠ place.slot.proxy := by
    intro heq
    rw [← heq, hlive] at he'
    obtain rfl := Option.some.inj he'
    -- a proxy that is spent has no free place
    obtain ⟨hserved, -⟩ := (hr _ e he).served_eq_one hsingle hat
    simp [Entry.accepts, hsingle, hserved] at haccepts
  rw [hhold, KeyMap.get?_insert, if_neg hother]
  exact hlive

namespace System

variable {σ τ : System ω}

/-- A step leaves a single-use proxy with a session as it is, or the proxy is gone after it. -/
theorem Rehoused.spares (h : Rehoused s σ τ) (hreserved : σ.Reserved)
    (hσ : σ.registry.live.OnceEach) {slot : SlotId} {key : SessionKey} {e : Entry ω}
    (he : σ.registry.live.get? slot.proxy = some e) (hsingle : e.proxy.singleUse = true)
    (hat : e.sessionAt slot.index = some key) :
    τ.registry.live.get? slot.proxy = none ∨
      ∃ e', τ.registry.live.get? slot.proxy = some e' ∧ e'.slots = e.slots := by
  cases h with
  | swept hlive =>
    rw [hlive]
    exact .inr ⟨e, sweep_spares hσ he hsingle hat _, rfl⟩
  | @registered p hunderway hrunning hlive =>
    obtain ⟨c, hc, hcall⟩ := hunderway
    have htaken : p.id ∈ σ.registry.registering :=
      (hreserved.perm hrunning).mem_iff.2
        (List.mem_append_left _ (mem_identities.2 ⟨c, hc, by rw [hcall]; rfl⟩))
    -- nothing is registered under an identity that is taken
    have hother : slot.proxy ≠ p.id := by
      intro heq
      have hnone := hreserved.vacant.unhoused p.id htaken
      rw [← heq, LiveProxies.proxy?, he] at hnone
      cases hnone
    rw [hlive, KeyMap.get?_insert, if_neg hother]
    exact .inr ⟨e, he, rfl⟩
  | reduced hlive =>
    cases he' : τ.registry.live.get? slot.proxy with
    | none => exact .inl rfl
    | some e' =>
      obtain ⟨e'', he'', -, -, hslots⟩ := hlive _ e' he'
      obtain rfl : e = e'' := Option.some.inj (he.symm.trans he'')
      exact .inr ⟨e', rfl, hslots hsingle⟩

/-- The counter `served` and the busy slots of every registered single-use proxy, the sessions of
each of its `tenures`, and its removal in the step that frees its slot or ends its session. -/
structure SingleUse (s : Setting ω) (σ : System ω) : Prop where
  /-- A registered one has taken no session and all its slots are free, or it has taken one session
  and exactly one of its slots is busy. -/
  used : ∀ id e, σ.registry.live.get? id = some e → e.proxy.singleUse = true →
    (e.served = 0 ∧ ∀ slot ∈ e.slots, slot.session = none) ∨
      (e.served = 1 ∧ e.slots.countP (·.session.isSome) = 1)
  /-- None is registered, spent and idle. -/
  busy : ∀ id e, σ.registry.live.get? id = some e → e.proxy.singleUse = true →
    0 < e.served → e.isIdle = false
  /-- No registration of one has taken more than one session in all its life. -/
  once : ∀ id, ∀ t ∈ σ.tenures id, t.proxy.singleUse = true → t.sessions.length ≤ 1
  /-- The latest registration of an identity is that of its registered proxy, which counts the
  sessions that it has taken. -/
  current : ∀ id e, σ.registry.live.get? id = some e → ∃ sessions earlier,
    σ.tenures id = ⟨e.proxy, sessions⟩ :: earlier ∧ e.served = sessions.length
  /-- Every session that was bound to a slot of an identity is counted in one registration. -/
  whole : ∀ id, (σ.tenures id).reverse.flatMap (·.sessions) =
    σ.created.filter (·.slot.proxy = id)
  /-- The section that frees a slot of one removes it. -/
  removed : ∀ a slot key e, σ.registry.live.get? slot.proxy = some e →
    e.proxy.singleUse = true → e.sessionAt slot.index = some key →
    (σ.step s a).registry.sessionIn? slot ≠ some key →
    (σ.step s a).registry.live.get? slot.proxy = none
  /-- The section that ends its session removes it. -/
  ended : ∀ a, (σ.step s a).FreshKeys → ∀ x ∈ σ.registry.active, ∀ e,
    σ.registry.live.get? x.slot.proxy = some e → e.proxy.singleUse = true →
    (σ.step s a).registry.session? x.key = none →
    (σ.step s a).registry.live.get? x.slot.proxy = none

/-- After every run, a registered single-use proxy has taken no session and is free, or it has taken
one and exactly one of its slots is busy.  A registration of one takes at most one session in all
its life, and the section that ends this session also removes the proxy. -/
theorem single_use (memory : ω) (actions : List (Action ω)) :
    ((initial memory).run s actions).SingleUse s := by
  obtain ⟨σ, hσ⟩ : ∃ σ, (initial memory).run s actions = σ := ⟨_, rfl⟩
  rw [hσ]
  have hsparing := sparing_run memory actions hσ
  have hguarded : σ.Guarded := hσ ▸ guarded_run memory actions
  have hreserved : σ.Reserved := hσ ▸ reserved_run memory actions
  have hremoved : ∀ a slot key e, σ.registry.live.get? slot.proxy = some e →
      e.proxy.singleUse = true → e.sessionAt slot.index = some key →
      (σ.step s a).registry.sessionIn? slot ≠ some key →
      (σ.step s a).registry.live.get? slot.proxy = none := by
    intro a slot key e he hsingle hat hfreed
    have hrehoused := (step_moved (s := s) σ a).rehoused hguarded hsparing.onceEach
    refine (hrehoused.spares hreserved hsparing.onceEach he hsingle hat).resolve_right ?_
    rintro ⟨e', he', hslots⟩
    refine hfreed (LiveProxies.sessionIn?_eq_some.2 ⟨e', he', ?_⟩)
    rw [Entry.sessionAt, hslots]
    exact hat
  constructor
  case used => exact hsparing.onceEach
  case busy => exact fun id e he => (hsparing.onceEach id e he).not_idle
  case once => exact fun id => (hsparing.hosted id).once
  case current => exact fun id e he => (hsparing.hosted id).current e he
  case whole => exact fun id => (hsparing.hosted id).whole
  case removed => exact hremoved
  case ended =>
    intro a hfresh x hx e he hsingle hgone
    obtain ⟨events, hhistory⟩ := (step_moved (s := s) σ a).exists_history
    have horderly : σ.Orderly := by
      rw [← hσ]
      exact orderly_run (.initial memory) actions (hσ ▸ hfresh.of_history hhistory)
    have horderly' := horderly.of_moved (step_moved σ a) hfresh
    obtain ⟨e', he', hat⟩ := LiveProxies.sessionIn?_eq_some.1 (horderly.tidy.seated.seated x hx)
    obtain rfl : e = e' := Option.some.inj (he.symm.trans he')
    -- a slot that still held the session would have it among the sessions
    refine hremoved a x.slot x.key e he hsingle hat fun hstill => ?_
    obtain ⟨y, hy, -, hkey⟩ := horderly'.tidy.seated.owned x.slot x.key hstill
    exact session?_eq_none_iff.1 hgone (List.mem_map.2 ⟨y, hy, hkey⟩)

/-- Two requests come to a proxy with two slots that is for one session: one of them is bound, and
the end of its session leaves nothing registered for the other. -/
example :
    let σ := contested.step countingSetting (.begin .sweep {})
    let τ := σ.step countingSetting (.begin (.release ⟨⟨2⟩⟩ .clientGone) {})
    (σ.tenures "node:4444").map (·.sessions.length) = [1] ∧ σ.registry.pending.length = 1 ∧
      τ.registry.live.keys = [] := by
  cbv

end System

end BrowserGrid.Registry
