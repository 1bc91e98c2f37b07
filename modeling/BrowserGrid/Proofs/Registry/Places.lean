import BrowserGrid.Registry.Slots
import Mathlib.Data.List.Basic

/-!
# The slots in the order of the search

The search for a slot goes through lists that are made anew for every request, from proxies that
change with every session.  `LiveProxies.places` lists all slots once, busy or not, and a session
that is put on a slot changes its entries one by one (`places_hold`), so what the search sees later
in a pass is a part of what it sees at the start.

* `freeSlots_eq`: the search goes through the free ones among the places.
* `occupy?_of_isFree`: a free slot can be taken.
* `searchList_eq`: when the matchers answer by the two maps alone, the search finds the first slot
  that they accept, and they have been asked about the slots up to it.
-/

namespace BrowserGrid.Registry

variable {ω : Type}

/-! ### Places -/

/-- Whether an address stands before another: by the identity of the proxy, then by number. -/
def AddressBefore (a b : SlotId) : Prop :=
  a.proxy < b.proxy ∨ a.proxy = b.proxy ∧ a.index < b.index

/-- A slot of a registered proxy, as the search sees it. -/
structure Place (ω : Type) where
  slot : SlotId
  /-- What it offers. -/
  offered : Capabilities
  session : Option SessionKey
  proxy : Proxy ω
  /-- How many sessions the proxy has taken. -/
  served : Nat

namespace Place

/-- Whether it could take a session. -/
def isFree (p : Place ω) : Bool := p.session.isNone && !(p.proxy.singleUse && p.served > 0)

/-- What the search looks at. -/
def toFreeSlot (p : Place ω) : FreeSlot ω := ⟨p.slot, p.offered, p.proxy.judge⟩

/-- The place after a session was put on a slot. -/
def hold (p : Place ω) (slot : SlotId) (key : SessionKey) : Place ω :=
  { p with
    session := if p.slot = slot then some key else p.session
    served := if p.slot.proxy = slot.proxy then p.served + 1 else p.served }

/-- Putting a session on a slot frees none. -/
theorem isFree_of_hold {p : Place ω} {slot : SlotId} {key : SessionKey}
    (h : (p.hold slot key).isFree) : p.isFree := by
  simp only [isFree, hold, Bool.and_eq_true, Option.isNone_iff_eq_none] at h ⊢
  obtain ⟨hsession, huse⟩ := h
  split at hsession
  · cases hsession
  · split at huse
    · exact ⟨hsession, by simp_all⟩
    · exact ⟨hsession, huse⟩

end Place

/-- The entry of a proxy after a session was put on a slot. -/
def Entry.hold (e : Entry ω) (index : Nat) (key : SessionKey) : Entry ω :=
  { e.setSlot index (some key) with served := e.served + 1 }

/-- The places of a proxy. -/
def Entry.places (id : ProxyId) (e : Entry ω) : List (Place ω) :=
  e.slots.zipIdx.map fun (slot, index) =>
    ⟨⟨id, index⟩, slot.capabilities, slot.session, e.proxy, e.served⟩

namespace LiveProxies

/-- All slots, in the order of their addresses. -/
def places (live : LiveProxies ω) : List (Place ω) :=
  live.entries.flatMap fun (id, e) => e.places id

def hold (live : LiveProxies ω) (slot : SlotId) (key : SessionKey) : LiveProxies ω :=
  live.modify slot.proxy (·.hold slot.index key)

end LiveProxies

/-! ### The entries of a map with another value at a key -/

theorem insertList_of_mem {α : Type} {key : String} {value : α} {entries : List (String × α)}
    (hsorted : entries.Pairwise (fun a b => a.1 < b.1)) (hkey : ∃ v, (key, v) ∈ entries) :
    KeyMap.insertList key value entries =
      entries.map fun e => if e.1 = key then (key, value) else e := by
  induction entries with
  | nil =>
    obtain ⟨v, hv⟩ := hkey
    exact absurd hv List.not_mem_nil
  | cons e rest ih =>
    obtain ⟨k, v⟩ := e
    obtain ⟨hfirst, hrest⟩ := List.pairwise_cons.1 hsorted
    have hne_of_lt : ∀ e ∈ rest, k < e.1 → e.1 ≠ k := fun e _ hlt heq =>
      absurd (heq ▸ hlt) (String.lt_irrefl k)
    by_cases heq : k = key
    · -- the keys ascend, so no later entry has this one
      subst heq
      have hlater : rest.map (fun e => if e.1 = k then (k, value) else e) = rest := by
        conv => rhs; rw [← List.map_id rest]
        refine List.map_congr_left fun e he => ?_
        rw [if_neg (hne_of_lt e he (hfirst e he))]
        rfl
      rw [KeyMap.insertList, if_neg (String.lt_irrefl k), if_pos rfl, List.map_cons, if_pos rfl,
        hlater]
    · obtain ⟨w, hw⟩ := hkey
      have hmem : (key, w) ∈ rest := by
        rcases List.mem_cons.1 hw with h | h
        · exact absurd (congrArg Prod.fst h).symm heq
        · exact h
      have hnlt : ¬key < k := fun hlt =>
        absurd (String.lt_trans hlt (hfirst _ hmem)) (String.lt_irrefl key)
      rw [KeyMap.insertList, if_neg hnlt, if_neg heq, List.map_cons, if_neg heq,
        ih hrest ⟨w, hmem⟩]

/-- Changing the value at a key changes one entry at most. -/
theorem entries_modify {α : Type} (m : KeyMap α) (key : String) (f : α → α) :
    (m.modify key f).entries =
      m.entries.map fun e => if e.1 = key then (e.1, f e.2) else e := by
  unfold KeyMap.modify
  split
  · rename_i v hv
    have hmem := KeyMap.get?_eq_some_iff.1 hv
    show KeyMap.insertList key (f v) m.entries = _
    rw [insertList_of_mem m.sorted ⟨v, hmem⟩]
    refine List.map_congr_left fun e he => ?_
    split
    · rename_i hkey
      -- no two entries have one key, so this is the one that was looked up
      have hget : m.get? key = some e.2 := KeyMap.get?_eq_some_iff.2 (by rw [← hkey]; exact he)
      rw [hv] at hget
      rw [Option.some.inj hget, hkey]
    · rfl
  · rename_i hnone
    conv => lhs; rw [← List.map_id m.entries]
    refine List.map_congr_left fun e he => ?_
    have hne : e.1 ≠ key := by
      intro hkey
      have hget : m.get? key = some e.2 := KeyMap.get?_eq_some_iff.2 (by rw [← hkey]; exact he)
      rw [hnone] at hget
      cases hget
    rw [if_neg hne]
    rfl

theorem zipIdx_modify {α : Type} (xs : List α) (index : Nat) (f : α → α) :
    (xs.modify index f).zipIdx =
      xs.zipIdx.map fun (x, i) => if i = index then (f x, i) else (x, i) := by
  refine List.ext_getElem? fun i => ?_
  rw [List.getElem?_zipIdx, List.getElem?_map, List.getElem?_zipIdx, List.getElem?_modify]
  cases xs[i]? with
  | none => rfl
  | some x =>
    by_cases h : i = index
    · simp [h]
    · simp [h, Ne.symm h]

/-! ### What a session does to the places -/

theorem Entry.places_hold (id : ProxyId) (e : Entry ω) (index : Nat) (key : SessionKey) :
    (e.hold index key).places id = (e.places id).map (·.hold ⟨id, index⟩ key) := by
  have hslots : (e.hold index key).slots = e.slots.modify index ({ · with session := some key }) :=
    rfl
  rw [places, hslots, zipIdx_modify, places, List.map_map, List.map_map]
  refine List.map_congr_left fun ⟨slot, i⟩ _ => ?_
  by_cases h : i = index
  · simp only [Function.comp_apply, Place.hold, h, if_true]
    rfl
  · have hslot : (⟨id, i⟩ : SlotId) ≠ ⟨id, index⟩ := fun heq => h (congrArg SlotId.index heq)
    simp only [Function.comp_apply, Place.hold, h, hslot, if_false, if_true]
    rfl

namespace LiveProxies

theorem places_hold (live : LiveProxies ω) (slot : SlotId) (key : SessionKey) :
    (live.hold slot key).places = live.places.map (·.hold slot key) := by
  rw [places, hold, entries_modify, places, List.flatMap_map, List.map_flatMap]
  refine List.flatMap_congr fun ⟨id, e⟩ _ => ?_
  by_cases h : id = slot.proxy
  · simp only [h, if_true, Entry.places_hold]
  · -- the places of another proxy stay as they are
    have hother : ∀ p ∈ e.places id, p.hold slot key = p := by
      intro p hp
      obtain ⟨⟨s, i⟩, _, rfl⟩ := List.mem_map.1 hp
      have hslot : (⟨id, i⟩ : SlotId) ≠ slot := fun heq => h (congrArg SlotId.proxy heq)
      simp [Place.hold, h, hslot]
    simp only [h, if_false]
    exact (List.map_congr_left hother).trans (List.map_id _) |>.symm

/-! ### The free slots -/

theorem freeSlotsOf_eq (id : ProxyId) (e : Entry ω) :
    freeSlotsOf id e = ((e.places id).filter Place.isFree).map Place.toFreeSlot := by
  have hfree : ∀ slot : Slot, ∀ index, Place.isFree (ω := ω)
      ⟨⟨id, index⟩, slot.capabilities, slot.session, e.proxy, e.served⟩ =
        (slot.session.isNone && e.accepts) := fun _ _ => rfl
  unfold freeSlotsOf Entry.places
  rw [List.filter_map, List.map_map, ← List.filterMap_eq_map, List.filterMap_filter]
  cases haccepts : e.accepts with
  | true =>
    rw [if_pos rfl]
    refine List.filterMap_congr fun ⟨slot, index⟩ _ => ?_
    simp only [Function.comp_apply, hfree, haccepts, Bool.and_true]
    rfl
  | false =>
    rw [if_neg Bool.false_ne_true]
    refine (List.filterMap_eq_nil_iff.2 fun ⟨slot, index⟩ _ => ?_).symm
    simp [hfree, haccepts]

/-- The search goes through the free places. -/
theorem freeSlots_eq (live : LiveProxies ω) :
    freeSlots live = (live.places.filter Place.isFree).map Place.toFreeSlot := by
  unfold freeSlots places
  rw [List.filter_flatMap, List.map_flatMap]
  exact List.flatMap_congr fun ⟨id, e⟩ _ => freeSlotsOf_eq id e

/-! ### Where a place comes from -/

theorem mem_places {live : LiveProxies ω} {p : Place ω} :
    p ∈ live.places ↔ ∃ e slot, live.get? p.slot.proxy = some e ∧
      e.slots[p.slot.index]? = some slot ∧
      p = ⟨p.slot, slot.capabilities, slot.session, e.proxy, e.served⟩ := by
  constructor
  · intro hp
    obtain ⟨⟨id, e⟩, he, hp⟩ := List.mem_flatMap.1 hp
    obtain ⟨⟨slot, index⟩, hslot, rfl⟩ := List.mem_map.1 hp
    exact ⟨e, slot, KeyMap.get?_eq_some_iff.2 he, List.mem_zipIdx_iff_getElem?.1 hslot, rfl⟩
  · rintro ⟨e, slot, he, hslot, hp⟩
    rw [hp]
    exact List.mem_flatMap.2 ⟨(p.slot.proxy, e), KeyMap.get?_eq_some_iff.1 he,
      List.mem_map.2 ⟨(slot, p.slot.index), List.mem_zipIdx_iff_getElem?.2 hslot, rfl⟩⟩

/-- The places stand in the order of their addresses. -/
theorem places_sorted (live : LiveProxies ω) :
    live.places.Pairwise fun a b => AddressBefore a.slot b.slot := by
  have hproxy : ∀ (id : ProxyId) (e : Entry ω), ∀ p ∈ e.places id, p.slot.proxy = id := by
    intro id e p hp
    obtain ⟨_, _, rfl⟩ := List.mem_map.1 hp
    rfl
  -- the enumeration orders the places of one proxy, the map those of different ones
  refine List.pairwise_flatMap.2 ⟨fun ⟨id, e⟩ _ => ?_, ?_⟩
  · have hindex : (e.slots.zipIdx.map (·.2)).Pairwise (· < ·) := by
      rw [List.zipIdx_map_snd]
      exact List.pairwise_lt_range'
    exact List.pairwise_map.2 ((List.pairwise_map.1 hindex).imp fun h => .inr ⟨rfl, h⟩)
  · refine live.sorted.imp fun {first later} hlt p hp q hq => .inl ?_
    rw [hproxy _ _ p hp, hproxy _ _ q hq]
    exact hlt

/-- A free slot can be taken. -/
theorem occupy?_of_isFree {live : LiveProxies ω} {p : Place ω} (hp : p ∈ live.places)
    (hfree : p.isFree) (key : SessionKey) :
    occupy? live p.slot key = some (live.hold p.slot key) := by
  obtain ⟨e, slot, he, hslot, hp⟩ := mem_places.1 hp
  have hsession : slot.session = none := by
    rw [hp] at hfree
    simp only [Place.isFree, Bool.and_eq_true, Option.isNone_iff_eq_none] at hfree
    exact hfree.1
  have hhold : live.hold p.slot key = live.insert p.slot.proxy (e.hold p.slot.index key) := by
    rw [hold, KeyMap.modify, he]
  rw [occupy?, he, hhold]
  simp only [Option.bind_eq_bind, Option.bind_some, hslot, hsession]
  rfl

end LiveProxies

/-! ### Matchers that answer by the two maps alone -/

/-- Whether the matcher of a proxy accepts an offer for a request. -/
abbrev Acceptance := ProxyId → (offered requested : Capabilities) → Bool

/-- The matchers of the registered proxies answer by the two maps alone. -/
def Answers (accepts : Acceptance) (live : LiveProxies ω) : Prop :=
  ∀ id e, live.get? id = some e → ∀ offered requested memory,
    (e.proxy.judge offered requested memory).1 = .ofBool (accepts id offered requested)

/-- Whether the matcher of a place accepts what it offers for a request. -/
def Place.suits (accepts : Acceptance) (requested : Capabilities) (p : Place ω) : Bool :=
  accepts p.slot.proxy p.offered requested

theorem Answers.judge_eq {accepts : Acceptance} {live : LiveProxies ω}
    (hanswers : Answers accepts live) {p : Place ω} (hp : p ∈ live.places)
    (offered requested : Capabilities) (memory : ω) :
    (p.proxy.judge offered requested memory).1 =
      .ofBool (accepts p.slot.proxy offered requested) := by
  obtain ⟨e, _, he, _, heq⟩ := LiveProxies.mem_places.1 hp
  have hproxy : p.proxy = e.proxy := congrArg Place.proxy heq
  rw [hproxy]
  exact hanswers _ e he _ _ _

/-! ### The search -/

namespace LiveProxies

theorem mem_of_searchList {requested : Capabilities} {free : List (FreeSlot ω)} {memory memory' : ω}
    {slot : SlotId} {offered : Capabilities}
    (h : searchList requested free memory = (.found slot offered, memory')) :
    ∃ f ∈ free, f.slot = slot ∧ f.offered = offered := by
  induction free generalizing memory with
  | nil => cases h
  | cons f rest ih =>
    unfold searchList at h
    split at h
    · cases h
      exact ⟨f, List.mem_cons_self, rfl, rfl⟩
    · obtain ⟨g, hg, heq⟩ := ih h
      exact ⟨g, List.mem_cons_of_mem _ hg, heq⟩
    · cases h

/-- The slot that the search finds can be taken. -/
theorem occupy?_of_firstFree {live : LiveProxies ω} {requested offered : Capabilities}
    {memory memory' : ω} {slot : SlotId}
    (h : firstFree live requested memory = (.found slot offered, memory')) (key : SessionKey) :
    occupy? live slot key = some (live.hold slot key) := by
  obtain ⟨f, hf, rfl, -⟩ := mem_of_searchList h
  rw [freeSlots_eq] at hf
  obtain ⟨p, hp, rfl⟩ := List.mem_map.1 hf
  exact occupy?_of_isFree (List.mem_of_mem_filter hp) (List.mem_filter.1 hp).2 key

/-- The memory after the matchers of some places have been asked about a request. -/
def askAll (requested : Capabilities) (places : List (Place ω)) (memory : ω) : ω :=
  places.foldl (fun memory p => (p.proxy.judge p.offered requested memory).2) memory

/-- When the matchers of the places answer by the two maps alone, the first place whose matcher
accepts is found, and the matchers up to it have been asked. -/
theorem searchList_eq {requested : Capabilities} {places : List (Place ω)} {takes : Place ω → Bool}
    (htakes : ∀ p ∈ places, ∀ memory,
      (p.proxy.judge p.offered requested memory).1 = .ofBool (takes p)) (memory : ω) :
    searchList requested (places.map Place.toFreeSlot) memory =
      (match places.find? takes with
        | some p => .found p.slot p.offered
        | none => .nothing,
      askAll requested (places.take (places.findIdx takes + 1)) memory) := by
  -- a refusal changes the memory and no answer, so the induction is over all memories
  induction places generalizing memory with
  | nil => rfl
  | cons p rest ih =>
    have hp := htakes p List.mem_cons_self memory
    have hjudge : p.toFreeSlot.judge p.toFreeSlot.offered requested memory =
        (.ofBool (takes p), (p.proxy.judge p.offered requested memory).2) := Prod.ext hp rfl
    rw [List.map_cons, searchList, hjudge]
    cases hp : takes p with
    | true =>
      rw [List.find?_cons_of_pos hp, List.findIdx_cons, hp]
      rfl
    | false =>
      rw [List.find?_cons_of_neg (by simp [hp]), List.findIdx_cons, hp]
      exact ih (fun q hq => htakes q (List.mem_cons_of_mem _ hq)) _

end LiveProxies

end BrowserGrid.Registry
