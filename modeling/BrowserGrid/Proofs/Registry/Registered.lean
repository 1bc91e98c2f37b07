import BrowserGrid.Proofs.Registry.Moves

/-!
# Which proxies are registered

`LiveProxies.proxy?` forgets all about a registered proxy but the proxy itself.  Sessions do not
matter to this view, so a section only removes proxies from it, unless it is the end of a
registration (`Section.proxy?_mono`, `resume_registers`).

When an operation begins to wait for the teardown of a proxy, nothing is registered under the
identity of that proxy (`start_unregistered`, `resume_unregistered`).
-/

namespace BrowserGrid.Registry

variable {ω : Type} {s : Setting ω} {callers : Callers}

/-! ### The registered proxies -/

namespace LiveProxies

/-- The proxy that is registered under an identity. -/
def proxy? (live : LiveProxies ω) (id : ProxyId) : Option (Proxy ω) := (live.get? id).map (·.proxy)

theorem proxy?_insert (live : LiveProxies ω) (id : ProxyId) (e : Entry ω) (other : ProxyId) :
    proxy? (live.insert id e) other = if other = id then some e.proxy else live.proxy? other := by
  rw [proxy?, KeyMap.get?_insert]
  split <;> rfl

theorem proxy?_erase (live : LiveProxies ω) (id other : ProxyId) :
    proxy? (live.erase id) other = if other = id then none else live.proxy? other := by
  rw [proxy?, KeyMap.get?_erase]
  split <;> rfl

/-- Another state of a registered proxy. -/
theorem proxy?_insert_of_eq {live : LiveProxies ω} {id : ProxyId} {e e' : Entry ω}
    (hget : live.get? id = some e) (he : e'.proxy = e.proxy) (other : ProxyId) :
    proxy? (live.insert id e') other = live.proxy? other := by
  rw [proxy?_insert, he]
  split
  · rename_i h
    rw [h, proxy?, hget]
    rfl
  · rfl

theorem proxy?_occupy {live live' : LiveProxies ω} {slot : SlotId} {key : SessionKey}
    (h : occupy? live slot key = some live') (id : ProxyId) : live'.proxy? id = live.proxy? id := by
  simp only [occupy?, Option.bind_eq_bind, Option.bind_eq_some_iff] at h
  obtain ⟨e, hget, _, _, h⟩ := h
  split at h
  · cases h
  · obtain rfl := Option.some.inj h
    refine proxy?_insert_of_eq hget ?_ id
    rfl

theorem proxy?_vacate (live : LiveProxies ω) (slot : SlotId) (key : SessionKey) (id : ProxyId) :
    (vacate live slot key).proxy? id = live.proxy? id := by
  unfold vacate
  split
  · rename_i e hget
    split
    · exact proxy?_insert_of_eq hget (by rfl) id
    · rfl
  · rfl

theorem proxy?_erase_mono {live : LiveProxies ω} {id other : ProxyId} {p : Proxy ω}
    (h : proxy? (live.erase id) other = some p) : live.proxy? other = some p := by
  rw [proxy?_erase] at h
  split at h
  · cases h
  · exact h

theorem proxy?_retire_mono {live : LiveProxies ω} {id other : ProxyId} {p : Proxy ω}
    (h : (retire live id).2.proxy? other = some p) : live.proxy? other = some p := by
  unfold retire at h
  split at h
  · split at h
    · exact proxy?_erase_mono h
    · exact h
  · exact h

theorem proxy?_of_retire {live : LiveProxies ω} {id : ProxyId} {e : Entry ω}
    (h : (retire live id).1 = some e) :
    live.proxy? id = some e.proxy ∧ (retire live id).2.proxy? id = none := by
  unfold retire at h ⊢
  split
  · rename_i e' hget
    simp only [hget] at h
    split
    · rename_i hspent
      rw [if_pos hspent] at h
      obtain rfl := Option.some.inj h
      exact ⟨by rw [proxy?, hget]; rfl, by rw [proxy?_erase, if_pos rfl]⟩
    · rename_i hspent
      rw [if_neg hspent] at h
      cases h
  · rename_i hnone
    simp only [hnone] at h
    cases h

end LiveProxies

/-- Every proxy is registered under its identity, and none once the registry has been stopped. -/
structure Housed (r : Registry ω) : Prop where
  /-- Every proxy is registered under its identity. -/
  keyed : ∀ id p, r.live.proxy? id = some p → p.id = id
  /-- No proxy is registered once the registry has been stopped. -/
  bare : r.stopped = true → ∀ id, r.live.proxy? id = none

theorem Housed.empty : Housed ({} : Registry ω) :=
  ⟨fun _ _ h => (nomatch h), fun _ _ => rfl⟩

/-- The registered proxies. -/
def proxies (r : Registry ω) : List (Proxy ω) := r.live.values.map (·.proxy)

theorem Housed.mem_proxies_iff {r : Registry ω} (hr : Housed r) (p : Proxy ω) :
    p ∈ r.proxies ↔ r.live.proxy? p.id = some p := by
  rw [proxies, KeyMap.values, List.map_map, List.mem_map]
  constructor
  · rintro ⟨⟨id, e⟩, he, rfl⟩
    have hget : r.live.proxy? id = some e.proxy := by
      rw [LiveProxies.proxy?, KeyMap.get?_eq_some_iff.2 he]
      rfl
    rw [Function.comp_apply, hr.keyed id _ hget]
    exact hget
  · intro hp
    obtain ⟨e, he, hproxy⟩ := Option.map_eq_some_iff.1 hp
    exact ⟨(p.id, e), KeyMap.get?_eq_some_iff.1 he, hproxy⟩

theorem Housed.nodup_ids {r : Registry ω} (hr : Housed r) : (r.proxies.map (·.id)).Nodup := by
  have hids : r.proxies.map (·.id) = r.live.keys := by
    rw [proxies, KeyMap.values, List.map_map, List.map_map, KeyMap.keys]
    refine List.map_congr_left fun entry hentry => hr.keyed entry.1 _ ?_
    rw [LiveProxies.proxy?, KeyMap.get?_eq_some_iff.2 hentry]
    rfl
  rw [hids, KeyMap.keys, List.Nodup, List.pairwise_map]
  refine r.live.sorted.imp fun hlt heq => ?_
  rw [heq] at hlt
  exact String.lt_irrefl _ hlt

/-! ### What a section removes and registers -/

theorem Sweep.Visits.proxy?_eq {w w' : Sweep ω} {seen : List PendingRequest}
    (h : Visits s callers w seen w') (id : ProxyId) : w'.live.proxy? id = w.live.proxy? id := by
  refine h.preserves (P := fun v => v.live.proxy? id = w.live.proxy? id) ?_ rfl
  intro v v' p hp hv
  cases hp with
  | discarded | kept | refused => exact hv
  | bound _ _ _ _ live hlive =>
    rw [deliver_live]
    exact (LiveProxies.proxy?_occupy hlive id).trans hv

/-- A section that is not the end of a registration registers nothing. -/
theorem Section.proxy?_mono {r r' : Registry ω} {news : List News}
    (h : Section s callers r none r' news) {id : ProxyId} {p : Proxy ω}
    (hp : r'.live.proxy? id = some p) : r.live.proxy? id = some p := by
  generalize hfreed : (none : Option ProxyId) = freed at h
  cases h with
  | idle => exact hp
  | released h =>
    obtain ⟨_, _, _, rfl⟩ := release_eq h
    exact (LiveProxies.proxy?_vacate ..).symm.trans (LiveProxies.proxy?_retire_mono hp)
  | removed h =>
    obtain ⟨_, _, _, rfl⟩ := removeProxy_eq h
    exact LiveProxies.proxy?_erase_mono hp
  | staged h =>
    obtain ⟨_, rfl⟩ := eq_of_removeProxy_none (stage_eq h).2.2
    exact hp
  | replaced h =>
    obtain ⟨_, _, _, rfl⟩ := removeProxy_eq (stage_eq h).2.2
    exact LiveProxies.proxy?_erase_mono hp
  | promoted => cases hfreed
  | swept memory =>
    cases hr : r.stopped with
    | true => rwa [sweep_of_stopped hr] at hp
    | false =>
      obtain ⟨_, _, _, hpassed⟩ := sweep_passed s callers hr memory
      rw [hpassed.registry_eq] at hp
      exact (hpassed.visits.proxy?_eq id).symm.trans hp
  | stopped h =>
    obtain ⟨_, _, _, rfl⟩ := stop_eq h
    cases hp

/-- A later section registers nothing but the proxy of the registration that it ends. -/
theorem resume_registers (s : Setting ω) {r : Registry ω} {memory : ω} {prepared : Bool}
    {c : Call ω} {id : ProxyId} {p : Proxy ω}
    (hp : (c.resume r memory prepared).registry.live.proxy? id = some p) :
    r.live.proxy? id = some p ∨
      c = .preparing p ∧ id = p.id ∧ r.stopped = false ∧
        (c.resume r memory prepared).next = .answers (.added true) := by
  cases hc : c.preparation? with
  | none =>
    have hsection := resume_section s everybody r memory prepared c
    rw [hc] at hsection
    exact .inl (hsection.proxy?_mono hp)
  | some new =>
    obtain rfl : c = .preparing new := by
      cases c with
      | preparing => exact congrArg Call.preparing (Option.some.inj hc)
      | _ => cases hc
    cases prepared with
    | false => exact .inl hp
    | true =>
      cases hstopped : r.stopped with
      | true =>
        simp only [Call.resume, promote, hstopped] at hp
        exact .inl hp
      | false =>
        have hresume : (Call.preparing new).resume r memory true =
            ⟨{ r with
                registering := r.registering.filter (· ≠ new.id)
                live := r.live.insert new.id (.fresh new) },
              memory, [.changed], .answers (.added true)⟩ := by
          simp [Call.resume, promote, hstopped]
        rw [hresume] at hp ⊢
        rw [LiveProxies.proxy?_insert] at hp
        split at hp
        · rename_i hid
          obtain rfl := Option.some.inj hp
          exact .inr ⟨rfl, hid, rfl, rfl⟩
        · exact .inl hp

/-! ### Proxies stay under their identities -/

variable {r r' : Registry ω}

/-- A stopped registry comes from one without proxies, or has just been emptied. -/
theorem Section.bare {freed : Option ProxyId} {news : List News}
    (h : Section s callers r freed r' news) (hstopped : r'.stopped = true) (id : ProxyId)
    (hmono : ∀ p, r'.live.proxy? id = some p → r.stopped = true → r.live.proxy? id = some p)
    (hr : Housed r) : r'.live.proxy? id = none := by
  rcases h.stopped_cases hstopped with hbefore | ⟨out, hstop⟩
  · cases hp : r'.live.proxy? id with
    | none => rfl
    | some p =>
      have hwas := hmono p hp hbefore
      rw [hr.bare hbefore id] at hwas
      cases hwas
  · obtain ⟨_, _, _, rfl⟩ := stop_eq hstop
    rfl

theorem Section.housed {news : List News} (h : Section s callers r none r' news)
    (hr : Housed r) : Housed r' where
  keyed := fun id p hp => hr.keyed id p (h.proxy?_mono hp)
  bare := fun hstopped id => h.bare hstopped id (fun _ hp _ => h.proxy?_mono hp) hr

theorem resume_housed (s : Setting ω) (hr : Housed r) (memory : ω) (prepared : Bool) (c : Call ω) :
    Housed (c.resume r memory prepared).registry where
  keyed := fun id p hp => by
    rcases resume_registers s hp with hp | ⟨_, hid, _⟩
    · exact hr.keyed id p hp
    · exact hid.symm
  bare := fun hstopped id => by
    refine (resume_section s everybody r memory prepared c).bare hstopped id ?_ hr
    intro p hp hbefore
    rcases resume_registers s hp with hp | ⟨_, _, hrunning, _⟩
    · exact hp
    · exact absurd (hbefore.symm.trans hrunning) (by simp)

/-! ### Teardowns -/

/-- A proxy that is removed is no longer registered. -/
theorem proxy?_of_removeProxy {id : ProxyId} {reason : Termination}
    {out : Removed ω} (h : r.removeProxy id reason = (some out, r')) :
    r.live.proxy? id = some out.proxy ∧ r'.live.proxy? id = none := by
  unfold removeProxy at h
  split at h
  · cases h
  · rename_i e he
    cases h
    exact ⟨by rw [LiveProxies.proxy?, he]; rfl, by rw [LiveProxies.proxy?_erase, if_pos rfl]⟩

/-- A spent proxy is no longer registered. -/
theorem proxy?_of_release {key : SessionKey} {reason : Termination}
    {x : Session} {p : Proxy ω} (h : r.release key reason = (some ⟨x, some p⟩, r')) :
    ∃ id, r.live.proxy? id = some p ∧ r'.live.proxy? id = none := by
  unfold release at h
  split at h
  · cases h
  · rename_i y hy
    obtain ⟨hout, rfl⟩ := Prod.mk.inj h
    obtain ⟨-, hretired⟩ := Released.mk.inj (Option.some.inj hout)
    obtain ⟨e, he, rfl⟩ := Option.map_eq_some_iff.1 hretired
    obtain ⟨hbefore, hafter⟩ := LiveProxies.proxy?_of_retire he
    exact ⟨y.slot.proxy, by rwa [LiveProxies.proxy?_vacate] at hbefore, hafter⟩

/-- No proxy of an identity that the call after `turn` tears down is registered in `turn.registry`.
-/
def Unregistered (turn : Turn ω) : Prop :=
  ∀ call, turn.next = .waits call → ∀ x ∈ call.teardowns,
    turn.registry.live.proxy? x.id = none

theorem releaseTurn_unregistered (hr : Housed r) (memory : ω) (key : SessionKey)
    (reason : Termination) {spent : Session → Proxy ω → Call ω} {after : Option Session → Next ω}
    (hspent : ∀ x p, (spent x p).teardowns = [p])
    (hafter : ∀ x call, after x = .waits call → call.teardowns = []) :
    Unregistered (releaseTurn r memory key reason spent after) := by
  have hnone {x : Option Session} {call : Call ω} (h : after x = .waits call) {p : Proxy ω}
      (hp : p ∈ call.teardowns) : False := by
    rw [hafter x call h] at hp
    exact absurd hp List.not_mem_nil
  unfold releaseTurn Unregistered
  split
  · exact fun call hcall p hp => (hnone hcall hp).elim
  · exact fun call hcall p hp => (hnone hcall hp).elim
  · rename_i session p r' hrelease
    rintro call hcall q hq
    cases hcall
    -- the spent proxy was registered, hence under its own identity
    rw [hspent] at hq
    obtain rfl := List.mem_singleton.1 hq
    obtain ⟨id, hwas, his⟩ := proxy?_of_release hrelease
    rw [hr.keyed id q hwas]
    exact his

theorem afterReturn_teardowns {keys : List SessionKey} {toProvision : List Request}
    {call : Call ω} (h : afterReturn keys toProvision = .waits call) : call.teardowns = [] := by
  unfold afterReturn at h
  split at h
  · cases h
  · cases h
    rfl

/-- Nothing is registered under the identity of a proxy when its teardown begins. -/
theorem start_unregistered (hr : Housed r) (memory : ω) (op : Operation ω) :
    Unregistered (op.start s callers r memory) := by
  have hbegins := start_begins s callers r memory op
  generalize op.start s callers r memory = turn at hbegins ⊢
  cases hbegins with
  | refused | missing | vacant | broken | swept | halted => exact fun call hcall => nomatch hcall
  | staged | occupied | returning =>
    rintro call hcall x hx
    cases hcall
    exact absurd hx List.not_mem_nil
  | @replaced p stale r' hstage =>
    obtain ⟨hwas, his⟩ := proxy?_of_removeProxy (stage_eq hstage).2.2
    have hid : stale.proxy.id = p.id := hr.keyed p.id _ hwas
    rintro call hcall x hx
    cases hcall
    split at hx
    · exact absurd hx List.not_mem_nil
    · obtain rfl := List.mem_singleton.1 hx
      rw [hid]
      exact his
  | removed id hremove =>
    obtain ⟨hwas, his⟩ := proxy?_of_removeProxy hremove
    rintro call hcall x hx
    cases hcall
    obtain rfl := List.mem_singleton.1 hx
    rw [hr.keyed id _ hwas]
    exact his
  | released key reason =>
    exact releaseTurn_unregistered hr memory key reason (fun _ _ => rfl) fun _ _ h => nomatch h
  | stopped hstop =>
    obtain ⟨_, _, _, rfl⟩ := stop_eq hstop
    exact fun _ _ _ _ => rfl

/-- A registration comes too late only when nothing is registered any more. -/
theorem proxy?_of_late (hr : Housed r) {p : Proxy ω} {prepared : Bool}
    (h : r.promote p prepared = (.late, r')) (id : ProxyId) : r'.live.proxy? id = none := by
  unfold promote at h
  dsimp only at h
  split at h
  · cases h
  · split at h
    · rename_i hstopped
      cases h
      exact hr.bare hstopped id
    · cases h

theorem resume_unregistered (hr : Housed r) (memory : ω) (prepared : Bool) (c : Call ω) :
    Unregistered (c.resume r memory prepared) := by
  cases c with
  | clearing stale new =>
    rintro call hcall x hx
    cases hcall
    exact absurd hx List.not_mem_nil
  | preparing new =>
    unfold Call.resume
    dsimp only
    split
    · exact fun call hcall => nomatch hcall
    · rename_i r' hpromote
      exact fun call hcall x hx => proxy?_of_late hr hpromote x.id
    · exact fun call hcall => nomatch hcall
  | forcing key reason =>
    exact releaseTurn_unregistered hr memory key reason (fun _ _ => rfl) fun _ _ h => nomatch h
  | returning keys toProvision =>
    cases keys with
    | nil => exact fun call hcall => nomatch hcall
    | cons key keys =>
      exact releaseTurn_unregistered hr memory key _ (fun _ _ => rfl)
        fun _ _ h => afterReturn_teardowns h
  | retiring spent keys toProvision =>
    rintro call hcall x hx
    rw [afterReturn_teardowns hcall] at hx
    exact absurd hx List.not_mem_nil
  | discarding | removing | releasing | stopping => exact fun call hcall => nomatch hcall

end BrowserGrid.Registry
