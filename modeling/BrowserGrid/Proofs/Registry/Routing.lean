import BrowserGrid.Proofs.Capability.Matching
import BrowserGrid.Proofs.Registry.Run
import BrowserGrid.Proofs.Registry.Visits
import BrowserGrid.Proxy.Node
import BrowserGrid.Proxy.Provider

/-!
# Requests that go to the cloud

The slots of a cloud provider take what the table of the versions last seen says that the fleet
cannot serve; they do not look at the slots of the fleet.  The search asks the free slots in the
order of their addresses, and the slots of the fleet note their versions in the table as they are
asked.  So a request goes to the cloud past a free slot of the fleet that takes it only if the search
has not come to that slot yet and the table, as it is then, misses it.

* `bound_to_cloud`: this holds whenever a sweep binds a request to a slot of a cloud provider.
* `fleet_passed_over`: all three ways of missing a slot of the fleet occur.
-/

namespace BrowserGrid.Registry

variable {ω : Type} {s : Setting ω} {callers : Callers}

/-! ### The search up to the slot that it finds -/

theorem AddressBefore.ne {a b : SlotId} (h : AddressBefore a b) : a ≠ b := by
  rintro rfl
  rcases h with h | ⟨-, h⟩
  · exact String.lt_irrefl _ h
  · exact Nat.lt_irrefl _ h

namespace LiveProxies

/-- The search has been refused by all slots before the one that it finds. -/
theorem searchList_found {requested offered : Capabilities} {places : List (Place ω)}
    {memory memory' : ω} {slot : SlotId}
    (h : searchList requested (places.map Place.toFreeSlot) memory =
      (.found slot offered, memory')) :
    ∃ front place back, places = front ++ place :: back ∧ place.slot = slot ∧
      (∀ q ∈ front, ∃ μ, (q.proxy.judge q.offered requested μ).1 = .refused) ∧
      place.proxy.judge place.offered requested (askAll requested front memory) =
        (.accepted, memory') := by
  induction places generalizing memory with
  | nil => cases h
  | cons p rest ih =>
    rw [List.map_cons, searchList] at h
    split at h
    · rename_i hjudge
      cases h
      exact ⟨[], p, rest, rfl, rfl, fun _ h => absurd h List.not_mem_nil, hjudge⟩
    · rename_i hjudge
      -- the first slot has refused, and the search goes on with the memory that its matcher leaves
      obtain ⟨front, place, back, rfl, hslot, hfront, hplace⟩ := ih h
      refine ⟨p :: front, place, back, rfl, hslot, fun q hq => ?_, ?_⟩
      · rcases List.mem_cons.1 hq with rfl | hq
        · exact ⟨memory, congrArg Prod.fst hjudge⟩
        · exact hfront q hq
      · have hmemory : (p.proxy.judge p.offered requested memory).2 = _ := congrArg Prod.snd hjudge
        rw [askAll, List.foldl_cons, hmemory]
        exact hplace
    · cases h

/-- The memory as the search leaves it on its way to a slot. -/
def onTheWay (live : LiveProxies ω) (requested : Capabilities) (slot : SlotId) (memory : ω) : ω :=
  askAll requested ((live.places.filter Place.isFree).takeWhile (·.slot ≠ slot)) memory

/-- What stands in front of a free slot is what the search passes on its way. -/
theorem onTheWay_of_split {live : LiveProxies ω} {front back : List (Place ω)} {place : Place ω}
    (hsplit : live.places.filter Place.isFree = front ++ place :: back)
    (requested : Capabilities) (memory : ω) :
    live.onTheWay requested place.slot memory = askAll requested front memory := by
  have hsorted := live.places_sorted.filter Place.isFree
  rw [hsplit, List.pairwise_append] at hsorted
  -- the addresses ascend, so those in front of the slot are not the slot
  have htakeWhile :
      (live.places.filter Place.isFree).takeWhile (·.slot ≠ place.slot) = front := by
    rw [hsplit, List.takeWhile_append_of_pos, List.takeWhile_cons_of_neg (by simp),
      List.append_nil]
    intro q hq
    simpa using (hsorted.2.2 q hq place List.mem_cons_self).ne
  rw [onTheWay, htakeWhile]

/-- The free slots are those that have refused, in front, the one that is found, and later ones. -/
theorem firstFree_found {live : LiveProxies ω} {requested offered : Capabilities}
    {memory memory' : ω} {slot : SlotId}
    (h : live.firstFree requested memory = (.found slot offered, memory')) :
    ∃ place ∈ live.places, place.slot = slot ∧
      place.proxy.judge place.offered requested (live.onTheWay requested slot memory) =
        (.accepted, memory') ∧
      ∀ q ∈ live.places, q.isFree → q = place ∨ AddressBefore slot q.slot ∨
        ∃ μ, (q.proxy.judge q.offered requested μ).1 = .refused := by
  rw [firstFree, freeSlots_eq] at h
  obtain ⟨front, place, back, hplaces, rfl, hfront, hplace⟩ := searchList_found h
  have hsorted := (live.places_sorted).filter Place.isFree
  rw [hplaces, List.pairwise_append, List.pairwise_cons] at hsorted
  obtain ⟨-, ⟨hlater, -⟩, -⟩ := hsorted
  have hmem : ∀ q ∈ front ++ place :: back, q ∈ live.places :=
    fun q hq => List.mem_of_mem_filter (hplaces ▸ hq)
  refine ⟨place, hmem place (by simp), rfl, ?_, fun q hq hfree => ?_⟩
  · rw [onTheWay_of_split hplaces]
    exact hplace
  · have hq : q ∈ front ++ place :: back := hplaces ▸ List.mem_filter.2 ⟨hq, hfree⟩
    rcases List.mem_append.1 hq with hq | hq
    · exact .inr (.inr (hfront q hq))
    · rcases List.mem_cons.1 hq with hq | hq
      · exact .inl hq
      · exact .inr (.inl (hlater q hq))

end LiveProxies

/-- The places that a pass comes to are those of the proxies that it began with. -/
theorem Reaches.exists_entry {r : Registry ω} {memory : ω} {p : PendingRequest} {v : Sweep ω}
    (h : Reaches s callers r memory p v) {q : Place ω} (hq : q ∈ v.live.places) :
    ∃ e, r.live.get? q.slot.proxy = some e ∧ e.proxy = q.proxy := by
  obtain ⟨seen, rest, -, hv⟩ := h
  refine Sweep.visitAll_preserves (P := fun w => ∀ q ∈ w.live.places,
    ∃ e, r.live.get? q.slot.proxy = some e ∧ e.proxy = q.proxy) ?_ hv ?_ q hq
  · intro w w' p hdecided hw q hq
    obtain ⟨place, hplace, hslot, hproxy⟩ := hdecided.exists_place hq
    rw [← hslot, ← hproxy]
    exact hw place hplace
  · intro q hq
    obtain ⟨e, _, he, _, heq⟩ := LiveProxies.mem_places.1 hq
    exact ⟨e, he, (congrArg Place.proxy heq).symm⟩

/-! ### Local first, as far as the table goes -/

/-- The matcher of a proxy is that of its kind. -/
def Routed (p : Proxy Versions) : Prop :=
  match p.kind with
  | .container => ∃ defaults, p.judge = Proxy.judgeBy (.fleet defaults)
  | .cloud => p.judge = Proxy.judgeBy .cloud

theorem Routed.of_cloud {p : Proxy Versions} (h : Routed p) (hkind : p.kind = .cloud) :
    p.judge = Proxy.judgeBy .cloud := by
  rwa [Routed, hkind] at h

theorem Routed.of_container {p : Proxy Versions} (h : Routed p) (hkind : p.kind = .container) :
    ∃ defaults, p.judge = Proxy.judgeBy (.fleet defaults) := by
  rwa [Routed, hkind] at h

theorem judgeBy_accepted_iff (m : Matcher) (offered requested : Capabilities) (table : Versions) :
    (Proxy.judgeBy m offered requested table).1 = .accepted ↔
      (m.judge table offered requested).accepted = true := by
  show Verdict.ofBool _ = _ ↔ _
  cases (m.judge table offered requested).accepted <;> simp [Verdict.ofBool]

/-- An offer of chrome, and a request for it. -/
def chrome : Capabilities := .ofList [("browserName", .str "chrome")]

/-- A cloud provider whose identity comes before those of the nodes. -/
def cloudProxy : Proxy Versions := .provider 0 { name := "cloud", url := "http://10.0.0.1:4444" }

/-- A node that offers this. -/
def fleetNode (offered : Capabilities) : Proxy Versions :=
  .node 1 "10.1.0.1:5555" ⟨"node-1", "10.1.0.1", none⟩ [offered] {}

/-- Both are registered, and a request is queued. -/
def mixedGrid (table : Versions) (offered requested : Capabilities) : System Versions :=
  (System.initial table).run countingSetting
    [.begin (.add cloudProxy) {}, .resume 0 true, .begin (.add (fleetNode offered)) {},
      .resume 1 true, .submit requested]

/-- What the next sweep makes of it. -/
def mixedSweep (table : Versions) (offered requested : Capabilities) : SweepResult Versions :=
  (mixedGrid table offered requested).registry.sweep countingSetting
    (({} : Departures).callers (mixedGrid table offered requested).mailboxes)
    (mixedGrid table offered requested).memory

/-- Whenever a sweep binds a request to a slot of a cloud provider, the table, as the search has left
it on its way to this slot, says that the fleet cannot serve the request; and each free slot of the
fleet that takes the request then stands behind the slot of the cloud and is missed by the table. -/
theorem bound_to_cloud {s : Setting Versions} {r : Registry Versions} {table : Versions}
    {x : Session}
    (hrouted : ∀ id e, r.live.get? id = some e → Routed e.proxy)
    (hx : x ∈ (r.sweep s callers table).bound)
    (hcloud : ∃ e, r.live.get? x.slot.proxy = some e ∧ e.proxy.kind = .cloud) :
    ∃ p v seen, Reaches s callers r table p v ∧ p.request.id = x.requestId ∧
      seen = v.live.onTheWay p.request.capabilities x.slot v.memory ∧
      seen.canServe p.request.capabilities = false ∧
      ∀ q ∈ v.live.places, q.isFree → q.proxy.kind = .container →
        (∃ t, (q.proxy.judge q.offered p.request.capabilities t).1 = .accepted) →
          AddressBefore x.slot q.slot ∧ seen.Misses q.offered p.request.capabilities := by
  obtain ⟨p, v, slot, offered, memory', hreaches, -, hfound, rfl⟩ := bound_reached hx
  obtain ⟨e, he, hkind⟩ := hcloud
  have hrouted' : ∀ q ∈ v.live.places, Routed q.proxy := by
    intro q hq
    obtain ⟨e, he, hproxy⟩ := hreaches.exists_entry hq
    exact hproxy ▸ hrouted _ e he
  obtain ⟨place, hplace, rfl, hjudge, hothers⟩ := LiveProxies.firstFree_found hfound
  have hplacekind : place.proxy.kind = .cloud := by
    obtain ⟨e', he', hproxy⟩ := hreaches.exists_entry hplace
    have hsame : e = e' := Option.some.inj (he.symm.trans he')
    rw [← hproxy, ← hsame, hkind]
  have hcannot : (v.live.onTheWay p.request.capabilities place.slot v.memory).canServe
      p.request.capabilities = false := by
    rw [(hrouted' place hplace).of_cloud hplacekind] at hjudge
    exact Versions.canServe_eq_false_of_cloud
      ((judgeBy_accepted_iff ..).1 (congrArg Prod.fst hjudge))
  refine ⟨p, v, _, hreaches, rfl, rfl, hcannot, fun q hq hfree hcontainer ⟨t, haccepted⟩ => ?_⟩
  obtain ⟨defaults, hfleet⟩ := (hrouted' q hq).of_container hcontainer
  rw [hfleet, judgeBy_accepted_iff] at haccepted
  refine ⟨?_, Versions.misses_of_fleet haccepted hcannot⟩
  rcases hothers q hq hfree with rfl | hlater | ⟨μ, hrefused⟩
  · rw [hplacekind] at hcontainer
    cases hcontainer
  · exact hlater
  · -- whoever refused the request would have refused it with any table
    rw [Versions.fleet_accepted_eq defaults t μ, ← judgeBy_accepted_iff, ← hfleet, hrefused]
      at haccepted
    cases haccepted

/-- With an empty table a request for chrome goes to the cloud. -/
theorem bound_to_cloud_mixed :
    ∃ x p v seen,
      x ∈ (mixedSweep .empty chrome chrome).bound ∧ x.slot = ⟨cloudProxy.id, 0⟩ ∧
      Reaches countingSetting (({} : Departures).callers (mixedGrid .empty chrome chrome).mailboxes)
        (mixedGrid .empty chrome chrome).registry (mixedGrid .empty chrome chrome).memory p v ∧
      p.request.id = x.requestId ∧
      seen = v.live.onTheWay p.request.capabilities x.slot v.memory ∧
      seen.canServe p.request.capabilities = false := by
  have hlive : (mixedGrid .empty chrome chrome).registry.live.entries.map
      (fun e => (e.1, e.2.proxy)) =
        [(cloudProxy.id, cloudProxy), ((fleetNode chrome).id, fleetNode chrome)] := by
    with_unfolding_all rfl
  have hrouted : ∀ id e, (mixedGrid .empty chrome chrome).registry.live.get? id = some e →
      Routed e.proxy := by
    intro id e he
    have hmem : (id, e.proxy) ∈ _ := hlive ▸ List.mem_map_of_mem (KeyMap.get?_eq_some_iff.1 he)
    simp only [List.mem_cons, List.not_mem_nil, or_false, Prod.mk.injEq] at hmem
    rcases hmem with ⟨-, h⟩ | ⟨-, h⟩
    · rw [h]
      rfl
    · rw [h]
      exact ⟨_, rfl⟩
  have hbound : ∃ x ∈ (mixedSweep .empty chrome chrome).bound, x.slot = ⟨cloudProxy.id, 0⟩ := by
    decide +kernel
  have hcloud : ∃ e, (mixedGrid .empty chrome chrome).registry.live.get? cloudProxy.id = some e ∧
      e.proxy.kind = .cloud := by
    obtain ⟨⟨id, e⟩, he, h⟩ := List.mem_map.1 (hlive ▸ List.mem_cons_self)
    obtain ⟨rfl, h⟩ := Prod.mk.inj h
    exact ⟨e, KeyMap.get?_eq_some_iff.2 he, congrArg Proxy.kind h⟩
  obtain ⟨x, hx, hslot⟩ := hbound
  obtain ⟨p, v, seen, hreaches, hid, hseen, hcannot, -⟩ :=
    bound_to_cloud hrouted hx (hslot ▸ hcloud)
  exact ⟨x, p, v, seen, hx, hslot, hreaches, hid, hseen, hcannot⟩

/-! ### Slots of the fleet that are missed -/

/-- Whether the request goes to the cloud although the node is free and takes it. -/
def PassesOver (table : Versions) (offered requested : Capabilities) : Prop :=
  (mixedSweep table offered requested).bound.map (·.slot) = [⟨cloudProxy.id, 0⟩] ∧
    ∃ q ∈ (mixedGrid table offered requested).registry.live.places, q.isFree ∧
      q.proxy.kind = .container ∧ (q.proxy.judge q.offered requested table).1 = .accepted

instance (table : Versions) (offered requested : Capabilities) :
    Decidable (PassesOver table offered requested) :=
  inferInstanceAs (Decidable (_ ∧ _))

/-- The table has no entry for the browser, or another version was seen last, or the platform is not
Linux. -/
theorem fleet_passed_over :
    PassesOver .empty chrome chrome ∧
      PassesOver (.ofList [("chrome", "121.0")])
        (.ofList [("browserName", .str "chrome"), ("version", .str "120.0")])
        (.ofList [("browserName", .str "chrome"), ("version", .str "120.0")]) ∧
      PassesOver (.ofList [("chrome", "121.0")])
        (.ofList [("browserName", .str "chrome"), ("platform", .str "WINDOWS")])
        (.ofList [("browserName", .str "chrome"), ("platform", .str "WINDOWS")]) := by
  decide +kernel

end BrowserGrid.Registry
