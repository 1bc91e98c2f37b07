import BrowserGrid.Proofs.Registry.Pods

/-!
# What a section removes and tears down

A section of an operation is described by what it does to the list of the registered proxies: whom
it tears down, whom it removes without that, whom it registers, and who comes too late.  These lists
balance, up to their order (`start_balance`, `resume_balance`), and nobody is registered or comes
too late who was not to be registered (`start_newcomers`, `resume_newcomers`).
-/

namespace BrowserGrid.Registry

variable {ω : Type} {s : Setting ω} {callers : Callers} {r r' : Registry ω}

/-! ### What a section does to the registered proxies -/

/-- A proxy is not registered any more; the others are. -/
structure Loses (r : Registry ω) (p : Proxy ω) (r' : Registry ω) : Prop where
  was : r.live.proxy? p.id = some p
  now : ∀ id, r'.live.proxy? id = if id = p.id then none else r.live.proxy? id

theorem Housed.nodup (hr : Housed r) : r.proxies.Nodup := List.Nodup.of_map _ hr.nodup_ids

theorem Housed.proxies_perm (hr : Housed r) (hr' : Housed r')
    (h : ∀ id, r'.live.proxy? id = r.live.proxy? id) : r.proxies.Perm r'.proxies := by
  refine (List.perm_ext_iff_of_nodup hr.nodup hr'.nodup).2 fun p => ?_
  rw [hr.mem_proxies_iff, hr'.mem_proxies_iff, h]

theorem Loses.perm {p : Proxy ω} (h : Loses r p r') (hr : Housed r) (hr' : Housed r') :
    r.proxies.Perm (p :: r'.proxies) := by
  have hgone : r'.live.proxy? p.id = none := by
    rw [h.now, if_pos rfl]
  have hnot : p ∉ r'.proxies := by
    rw [hr'.mem_proxies_iff, hgone]
    exact fun heq => nomatch heq
  refine (List.perm_ext_iff_of_nodup hr.nodup (List.nodup_cons.2 ⟨hnot, hr'.nodup⟩)).2
    fun q => ?_
  rw [List.mem_cons, hr.mem_proxies_iff, hr'.mem_proxies_iff, h.now]
  constructor
  · intro hq
    by_cases hid : q.id = p.id
    · rw [hid, h.was] at hq
      exact .inl (Option.some.inj hq).symm
    · rw [if_neg hid]
      exact .inr hq
  · rintro (rfl | hq)
    · exact h.was
    · split at hq
      · cases hq
      · exact hq

theorem LiveProxies.proxy?_of_retire_none {live : LiveProxies ω} {id : ProxyId}
    (h : (retire live id).1 = none) : (retire live id).2 = live := by
  unfold retire at h ⊢
  split
  · rename_i e he
    simp only [he] at h
    split
    · rename_i hspent
      rw [if_pos hspent] at h
      cases h
    · rfl
  · rfl

theorem LiveProxies.proxy?_of_retire_some {live : LiveProxies ω} {id : ProxyId} {e : Entry ω}
    (h : (retire live id).1 = some e) (other : ProxyId) :
    (retire live id).2.proxy? other = if other = id then none else live.proxy? other := by
  unfold retire at h ⊢
  split
  · rename_i e' he
    simp only [he] at h
    split
    · exact proxy?_erase live id other
    · rename_i hspent
      rw [if_neg hspent] at h
      cases h
  · rename_i he
    simp only [he] at h
    cases h

theorem release_retired {key : SessionKey} {reason : Termination} {out : Released ω}
    (h : r.release key reason = (some out, r')) {x : Session} (hx : r.session? key = some x) :
    out.retired = (LiveProxies.retire (LiveProxies.vacate r.live x.slot key) x.slot.proxy).1.map
      (·.proxy) := by
  rw [release, hx] at h
  obtain ⟨hout, -⟩ := Prod.mk.inj h
  exact congrArg Released.retired (Option.some.inj hout).symm

theorem proxies_perm_of_release {key : SessionKey} {reason : Termination} {out : Released ω}
    (h : r.release key reason = (some out, r')) (hr : Housed r) (hr' : Housed r') :
    r.proxies.Perm (out.retired.toList ++ r'.proxies) := by
  obtain ⟨x, hx, -, heq⟩ := release_eq h
  have hlive : r'.live =
      (LiveProxies.retire (LiveProxies.vacate r.live x.slot key) x.slot.proxy).2 := by
    rw [heq]
  rw [release_retired h hx]
  cases hretired : (LiveProxies.retire (LiveProxies.vacate r.live x.slot key) x.slot.proxy).1 with
  | none =>
    refine hr.proxies_perm hr' fun id => ?_
    rw [hlive, LiveProxies.proxy?_of_retire_none hretired, LiveProxies.proxy?_vacate]
  | some e =>
    have hwas := (LiveProxies.proxy?_of_retire hretired).1
    rw [LiveProxies.proxy?_vacate] at hwas
    have hid := hr.keyed _ _ hwas
    refine Loses.perm ⟨hid.symm ▸ hwas, fun id => ?_⟩ hr hr'
    rw [hlive, LiveProxies.proxy?_of_retire_some hretired, LiveProxies.proxy?_vacate, hid]

theorem proxies_perm_of_removeProxy {id : ProxyId} {reason : Termination} {out : Removed ω}
    (h : r.removeProxy id reason = (some out, r')) (hr : Housed r) (hr' : Housed r') :
    r.proxies.Perm (out.proxy :: r'.proxies) := by
  obtain ⟨hwas, -⟩ := proxy?_of_removeProxy h
  have hid := hr.keyed id _ hwas
  obtain ⟨_, _, _, rfl⟩ := removeProxy_eq h
  refine Loses.perm ⟨hid.symm ▸ hwas, fun other => ?_⟩ hr hr'
  rw [LiveProxies.proxy?_erase, hid]

theorem proxies_perm_of_sweep (memory : ω) (hr : Housed r)
    (hr' : Housed (r.sweep s callers memory).registry) :
    r.proxies.Perm (r.sweep s callers memory).registry.proxies := by
  refine hr.proxies_perm hr' fun id => ?_
  cases hstopped : r.stopped with
  | true => rw [sweep_of_stopped hstopped]
  | false =>
    obtain ⟨_, _, _, hpassed⟩ := sweep_passed s callers hstopped memory
    rw [hpassed.registry_eq]
    exact hpassed.visits.proxy?_eq id

/-- The proxies that the end of the registry hands over are those that were registered. -/
theorem stop_proxies {out : Stopped ω} (h : r.stop = (some out, r')) : out.proxies = r.proxies := by
  unfold stop at h
  split at h
  · cases h
  · cases h
    rfl

theorem proxies_perm_of_insert {p : Proxy ω} (hnone : r.live.proxy? p.id = none)
    (hlive : r'.live = r.live.insert p.id (.fresh p)) (hr : Housed r) (hr' : Housed r') :
    r'.proxies.Perm (p :: r.proxies) := by
  refine Loses.perm ⟨?_, fun id => ?_⟩ hr' hr
  · rw [hlive, LiveProxies.proxy?_insert, if_pos rfl]
    rfl
  · rw [hlive, LiveProxies.proxy?_insert]
    split
    · rename_i hid
      rw [hid, hnone]
    · rfl

/-! ### What a section tears down -/

/-- The teardowns that a section calls. -/
def Next.teardowns : Next ω → List (Proxy ω)
  | .waits call => call.teardowns
  | .answers _ => []

/-- The registered proxy that an operation removes without tearing it down. -/
def Operation.spared (r : Registry ω) : Operation ω → List (Proxy ω)
  | .add p =>
    match (r.stage p.id).1 with
    | .staged (some stale) => if keepsBacking stale.proxy p then [stale.proxy] else []
    | _ => []
  | _ => []

/-- The proxy that a section registers. -/
def Call.registered (r : Registry ω) (prepared : Bool) : Call ω → List (Proxy ω)
  | .preparing p => if (r.promote p prepared).1 = .live then [p] else []
  | _ => []

/-- The proxy that comes too late to be registered in a section. -/
def Call.tardy (r : Registry ω) (prepared : Bool) : Call ω → List (Proxy ω)
  | .preparing p => if (r.promote p prepared).1 = .late then [p] else []
  | _ => []

theorem Operation.mem_spared_iff {r : Registry ω} {op : Operation ω} {p : Proxy ω} :
    p ∈ op.spared r ↔ ∃ q stale r', op = .add q ∧ r.stage q.id = (.staged (some stale), r') ∧
      keepsBacking stale.proxy q = true ∧ stale.proxy = p := by
  constructor
  · intro hp
    cases op with
    | add q =>
      rw [spared] at hp
      split at hp
      · rename_i stale hstage
        split at hp
        · rename_i hkeeps
          exact ⟨q, stale, _, rfl, Prod.ext hstage rfl, hkeeps, (List.mem_singleton.1 hp).symm⟩
        · exact absurd hp List.not_mem_nil
      · exact absurd hp List.not_mem_nil
    | _ => exact absurd hp List.not_mem_nil
  · rintro ⟨q, stale, r', rfl, hstage, hkeeps, rfl⟩
    rw [spared, hstage]
    exact List.mem_of_mem_head? (by simp [hkeeps])

theorem Call.mem_registered_iff {r : Registry ω} {prepared : Bool} {c : Call ω} {p : Proxy ω} :
    p ∈ c.registered r prepared ↔ c = .preparing p ∧ (r.promote p prepared).1 = .live := by
  cases c with
  | preparing q =>
    rw [registered]
    split <;> simp_all [eq_comm]
  | _ => simp [registered]

theorem Call.mem_tardy_iff {r : Registry ω} {prepared : Bool} {c : Call ω} {p : Proxy ω} :
    p ∈ c.tardy r prepared ↔ c = .preparing p ∧ (r.promote p prepared).1 = .late := by
  cases c with
  | preparing q =>
    rw [tardy]
    split <;> simp_all [eq_comm]
  | _ => simp [tardy]

theorem afterReturn_next_teardowns (keys : List SessionKey) (toProvision : List Request) :
    (afterReturn keys toProvision : Next ω).teardowns = [] := by
  unfold afterReturn
  split <;> rfl

theorem releaseTurn_balance (memory : ω) (key : SessionKey) (reason : Termination)
    {spent : Session → Proxy ω → Call ω} {after : Option Session → Next ω}
    (hspent : ∀ x p, (spent x p).teardowns = [p]) (hafter : ∀ x, (after x).teardowns = [])
    (hr : Housed r) (hr' : Housed (releaseTurn r memory key reason spent after).registry) :
    r.proxies.Perm ((releaseTurn r memory key reason spent after).next.teardowns ++
      (releaseTurn r memory key reason spent after).registry.proxies) := by
  unfold releaseTurn at hr' ⊢
  split
  · rename_i r' h
    obtain ⟨-, rfl⟩ := eq_of_release_none h
    show r'.proxies.Perm ((after none).teardowns ++ r'.proxies)
    rw [hafter, List.nil_append]
  · rename_i x r' h
    rw [h] at hr'
    show r.proxies.Perm ((after (some x)).teardowns ++ r'.proxies)
    rw [hafter]
    exact proxies_perm_of_release h hr hr'
  · rename_i x p r' h
    rw [h] at hr'
    show r.proxies.Perm ((spent x p).teardowns ++ r'.proxies)
    rw [hspent]
    exact proxies_perm_of_release h hr hr'

/-- An operation that begins tears down what it removes, unless it spares it. -/
theorem start_balance (hr : Housed r) (memory : ω) (op : Operation ω) :
    r.proxies.Perm ((op.start s callers r memory).next.teardowns ++
      (op.spared r ++ (op.start s callers r memory).registry.proxies)) := by
  have hr' : Housed (op.start s callers r memory).registry := (start_section ..).housed hr
  have hbegins := start_begins s callers r memory op
  generalize op.start s callers r memory = turn at hbegins hr' ⊢
  cases hbegins with
  | refused p h =>
    rw [Operation.spared, h]
    exact .refl _
  | staged p h =>
    obtain ⟨-, rfl⟩ := eq_of_removeProxy_none (stage_eq h).2.2
    rw [Operation.spared, h]
    exact .refl _
  | @replaced p stale r' h =>
    have hperm : (r.withIdentity p.id).proxies.Perm (stale.proxy :: r'.proxies) :=
      proxies_perm_of_removeProxy (stage_eq h).2.2 ⟨hr.keyed, hr.bare⟩ hr'
    rw [Operation.spared, h]
    dsimp only [Next.teardowns]
    cases keepsBacking stale.proxy p <;> exact hperm
  | missing | vacant | occupied | halted => exact .refl _
  | removed id h => exact proxies_perm_of_removeProxy h hr hr'
  | released key reason =>
    exact releaseTurn_balance memory key reason (fun _ _ => rfl) (fun _ => rfl) hr hr'
  | broken | swept | returning => exact proxies_perm_of_sweep memory hr hr'
  | stopped h =>
    rw [← stop_proxies h]
    obtain ⟨_, _, _, rfl⟩ := stop_eq h
    exact .of_eq (List.append_nil _).symm

/-- An operation that goes on tears down what it removes, and the proxy that comes too late. -/
theorem resume_balance (s : Setting ω) (hr : Housed r) (memory : ω) (prepared : Bool) (c : Call ω)
    (hvacant : ∀ p, c = .preparing p → r.stopped = false → r.live.proxy? p.id = none) :
    ∃ removed, (c.resume r memory prepared).next.teardowns = removed ++ c.tardy r prepared ∧
      (c.registered r prepared ++ r.proxies).Perm
        (removed ++ (c.resume r memory prepared).registry.proxies) := by
  have hr' : Housed (c.resume r memory prepared).registry := resume_housed s hr memory prepared c
  cases c with
  | preparing p =>
    refine ⟨[], ?_⟩
    unfold Call.resume at hr' ⊢
    unfold Call.registered Call.tardy
    dsimp only at hr' ⊢
    split
    · rename_i h
      rw [h] at hr' ⊢
      obtain ⟨-, rfl⟩ := promote_eq h
      exact ⟨rfl, hr.proxies_perm hr' fun _ => rfl⟩
    · rename_i h
      rw [h] at hr' ⊢
      obtain ⟨-, rfl⟩ := promote_eq h
      exact ⟨rfl, hr.proxies_perm hr' fun _ => rfl⟩
    · rename_i h
      rw [h] at hr' ⊢
      obtain ⟨hrunning, rfl⟩ := promote_eq h
      have hnone := hvacant p rfl (hrunning rfl)
      exact ⟨rfl, (proxies_perm_of_insert hnone rfl hr hr').symm⟩
  | forcing key reason =>
    exact ⟨_, (List.append_nil _).symm,
      releaseTurn_balance memory key reason (fun _ _ => rfl) (fun _ => rfl) hr hr'⟩
  | returning keys toProvision =>
    cases keys with
    | nil => exact ⟨[], rfl, .refl _⟩
    | cons key keys =>
      exact ⟨_, (List.append_nil _).symm, releaseTurn_balance memory key .clientGone
        (fun _ _ => rfl) (fun _ => afterReturn_next_teardowns _ _) hr hr'⟩
  | retiring spent keys toProvision =>
    exact ⟨[], afterReturn_next_teardowns keys toProvision, .refl _⟩
  | clearing | discarding | removing | releasing | stopping => exact ⟨[], rfl, .refl _⟩

/-! ### Who is to be registered -/

/-- The proxy that an operation is to register. -/
def Operation.added : Operation ω → List (Proxy ω)
  | .add p => [p]
  | _ => []

/-- The proxy that an action passes to a registration. -/
def Action.added : Action ω → List (Proxy ω)
  | .begin op _ => op.added
  | _ => []

/-- The proxy that is still to be registered after a section. -/
def Next.newcomers : Next ω → List (Proxy ω)
  | .waits call => call.newcomer?.toList
  | .answers _ => []

theorem start_newcomers (callers : Callers) (r : Registry ω) (memory : ω) (op : Operation ω) :
    (op.start s callers r memory).next.newcomers.Sublist op.added := by
  cases hnext : (op.start s callers r memory).next with
  | answers => exact List.nil_sublist _
  | waits call =>
    cases hp : call.newcomer? with
    | none =>
      rw [Next.newcomers, hp]
      exact List.nil_sublist _
    | some p =>
      rw [Next.newcomers, hp, start_newcomer hnext hp]
      exact List.Sublist.refl _

theorem resume_newcomers_of_none {memory : ω} {prepared : Bool} {c : Call ω}
    (h : c.newcomer? = none) : (c.resume r memory prepared).next.newcomers = [] := by
  cases hnext : (c.resume r memory prepared).next with
  | answers => rfl
  | waits call =>
    cases hp : call.newcomer? with
    | none => rw [Next.newcomers, hp, Option.toList_none]
    | some p =>
      have hwas := resume_newcomer hnext hp
      rw [h] at hwas
      cases hwas

/-- A proxy that is to be registered stays so, is registered, comes too late or is given up. -/
theorem resume_newcomers (r : Registry ω) (memory : ω) (prepared : Bool) (c : Call ω) :
    ((c.resume r memory prepared).next.newcomers ++
      (c.registered r prepared ++ c.tardy r prepared)).Sublist c.newcomer?.toList := by
  cases c with
  | clearing stale new => exact List.Sublist.refl _
  | preparing p =>
    have hnext : ((Call.preparing p).resume r memory prepared).next.newcomers = [] := by
      unfold Call.resume
      dsimp only
      split <;> rfl
    rw [hnext]
    unfold Call.registered Call.tardy
    dsimp only
    cases (r.promote p prepared).1 with
    | unprepared => exact List.nil_sublist _
    | late => exact List.Sublist.refl _
    | live => exact List.Sublist.refl _
  | forcing | returning | retiring | discarding | removing | releasing | stopping =>
    rw [resume_newcomers_of_none rfl]
    exact List.Sublist.refl _

end BrowserGrid.Registry
