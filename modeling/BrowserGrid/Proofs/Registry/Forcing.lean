import BrowserGrid.Proofs.Registry.Lifecycle

/-!
# Releasing a slot by force

A slot is released in two sections: the first one looks which session is on the slot, and the second
one ends the session of this key.  In between the session may end, and the slot may go to another
session, also with its proxy to another one of the same identity.

* `Strikes`: a section of such a release leaves the registry alone, or ends the session that was
  found, and nothing else.
* `System.forced_view`: what is seen of it after the second section, which is the first time that it
  goes on (`System.view_run_cases`); whatever follows touches no session (`System.Settling`).
* `System.force_release_precise`: so it hits the session that it looked up, or none.
-/

namespace BrowserGrid.Registry

variable {ω : Type} {s : Setting ω} {r r' : Registry ω}

/-! ### The second section -/

variable {key : SessionKey} {reason : Termination}

theorem resume_forcing_of_none (h : r.session? key = none) (memory : ω) (prepared : Bool) :
    (Call.forcing key reason).resume r memory prepared =
      { registry := r, memory, next := .answers (.released none) } := by
  have hrelease : r.release key reason = (none, r) := by
    rw [release, h]
  rw [Call.resume, releaseTurn, hrelease]

/-- A section leaves the registry alone, or ends the session that was found on a slot and nothing
else. -/
def Strikes (found : Option SessionKey) (slot : SlotId) (reason : Termination)
    (r r' : Registry ω) : Prop :=
  r' = r ∨ ∃ x out, found = some x.key ∧ x.slot = slot ∧ r.session? x.key = some x ∧
    Frees r x reason out r'

/-- What such a section leaves alone: every session that was not found, also in the slot. -/
structure Spares (found : Option SessionKey) (slot : SlotId) (reason : Termination)
    (r r' : Registry ω) : Prop where
  /-- It ends at most the session that was found. -/
  strikes : Strikes found slot reason r r'
  /-- All other sessions stay as they are. -/
  sessions : ∀ other, found ≠ some other → r'.session? other = r.session? other
  /-- So does another one that is on the slot by now. -/
  newcomer : ∀ other, found ≠ some other → r.sessionIn? slot = some other →
    r'.sessionIn? slot = some other

theorem Strikes.spares {found : Option SessionKey} {slot : SlotId}
    (h : Strikes found slot reason r r') (hr : Seated r.live r.active) :
    Spares found slot reason r r' := by
  refine ⟨h, fun other hother => ?_, fun other hother hthere => ?_⟩
  · rcases h with rfl | ⟨x, out, hfound, -, -, hfrees⟩
    · rfl
    · refine hfrees.sessions other ?_
      rintro rfl
      exact hother hfound
  · rcases h with rfl | ⟨x, out, hfound, hslot, hx, -⟩
    · exact hthere
    -- the session that was found is still on the slot, so there is nobody else
    · have hseated : r.sessionIn? slot = some x.key :=
        hslot ▸ hr.seated x (session?_eq_some hx).1
      rw [hthere] at hseated
      exact absurd (Option.some.inj hseated ▸ hfound) hother

/-- The registry `r'` after the second section of a forced release that has found `found`, and the
answers of the release, by whether `r` still has a session of this key. -/
structure SecondSection (found : Option SessionKey) (reason : Termination) (r r' : Registry ω)
    (answers : List Answer) (torn : Prop) : Prop where
  /-- Nothing, if it has gone since. -/
  misses : ∀ key, found = some key → r.session? key = none →
    r' = r ∧ answers = [.released none]
  /-- Otherwise it is released; the answer waits for the teardown of a proxy that is spent. -/
  hits : ∀ key x, found = some key → r.session? key = some x →
    ∃ out, Frees r x reason out r' ∧
      (out.retired = none ∨ torn → answers = [.released (some (x.finish reason))])

namespace System

variable {σ τ : System ω} {ticket : Nat}

/-! ### What is left of a session -/

theorem created_subset_run (σ : System ω) (actions : List (Action ω)) :
    σ.created ⊆ (σ.run s actions).created := by
  obtain ⟨events, hhistory⟩ := exists_history_run (s := s) σ actions
  exact fun _ hy => mem_created_append hhistory hy

/-- Of one key there is only one session. -/
theorem Traced.alike (hσ : σ.Traced) (hτ : τ.Traced) (hfresh : τ.FreshKeys)
    (hcreated : σ.created ⊆ τ.created) {x y : Session} (hx : x ∈ σ.registry.active)
    (hy : y ∈ τ.registry.active) (hkey : y.key = x.key) : Alike y x := by
  obtain ⟨z, hz, hxz⟩ := hσ.origin x hx
  obtain ⟨w, hw, hyw⟩ := hτ.origin y hy
  have hkeys : w.key = z.key := hyw.key.symm.trans (hkey.trans hxz.key)
  obtain rfl := List.inj_on_of_nodup_map hfresh hw (hcreated hz) hkeys
  exact hyw.trans hxz.symm

theorem session?_run_of_over (actions : List (Action ω)) (hfresh : (σ.run s actions).FreshKeys)
    (hkey : key ∈ σ.created.map (·.key)) (hnone : σ.registry.session? key = none) :
    (σ.run s actions).registry.session? key = none := by
  induction actions generalizing σ with
  | nil => exact hnone
  | cons a actions ih =>
    have hrest : ((System.step s σ a).run s actions).FreshKeys := hfresh
    have hover := not_active_of_moved (step_moved σ a) hrest.of_run hkey
      (session?_eq_none_iff.1 hnone)
    exact ih hrest (mem_created_keys_step a hkey) (session?_eq_none_iff.2 hover)

/-! ### The course of a release by force -/

/-- After the second section a release by force waits at most for the teardown of a proxy. -/
def Settling (v : View ω) : Prop := ∀ call, v.call = some call → ∃ x p, call = .releasing x p

theorem settling_of_over {v : View ω} (h : v.call = none) : Settling v := by
  intro call hcall
  rw [h] at hcall
  cases hcall

theorem settling_run (hticket : ticket < σ.begun) (h : Settling (σ.view ticket))
    (actions : List (Action ω)) : Settling ((σ.run s actions).view ticket) := by
  induction actions generalizing σ with
  | nil => exact h
  | cons a actions ih =>
    have hlt := Nat.lt_of_lt_of_le hticket (begun_le_step (s := s) σ a)
    refine ih hlt ?_
    cases step_seen (s := s) hticket a with
    | same hview => rwa [hview]
    | resumed call hcall prepared _ hview =>
      obtain ⟨x, p, rfl⟩ := h call hcall
      rw [hview]
      exact settling_of_over rfl
    | abandoned _ hview =>
      rw [hview]
      exact settling_of_over rfl

/-- The view of a release by force that knows its session. -/
abbrev forcingView (key : SessionKey) (reason : Termination) : View ω :=
  ⟨some (.forcing key reason), [], []⟩

/-- What is seen after the second section has not found the session any more. -/
theorem forced_view_of_none (hticket : ticket < τ.begun)
    (hview : τ.view ticket = forcingView key reason) (hnone : τ.registry.session? key = none)
    (prepared : Bool) (after : List (Action ω)) :
    (step s τ (.resume ticket prepared)).registry = τ.registry ∧
      (((step s τ (.resume ticket prepared)).run s after).view ticket).answers =
        [.released none] := by
  have hcall : (τ.view ticket).call = some (.forcing key reason) := by
    rw [hview]
  have hregistry := registry_step_resume (s := s) hcall prepared
  have hstep := view_step_resume (s := s) hticket hcall prepared
  rw [resume_forcing_of_none hnone] at hregistry hstep
  rw [hview] at hstep
  have hlt := Nat.lt_of_lt_of_le hticket (begun_le_step (s := s) τ (.resume ticket prepared))
  rw [view_run_of_over hlt (by rw [hstep]; rfl), hstep]
  exact ⟨hregistry, rfl⟩

/-- What is seen after the second section has released the session. -/
theorem forced_view (hticket : ticket < τ.begun) (hview : τ.view ticket = forcingView key reason)
    {out : Released ω} (hrelease : τ.registry.release key reason = (some out, r'))
    (prepared : Bool) (after : List (Action ω)) :
    (step s τ (.resume ticket prepared)).registry = r' ∧
      ((((step s τ (.resume ticket prepared)).run s after).view ticket).answers =
          [.released (some out.session)] ∨
        (((step s τ (.resume ticket prepared)).run s after).view ticket).answers = [] ∧
          out.retired ≠ none ∧
          (.abandon ticket ∈ after ∨ ∀ ready, .resume ticket ready ∉ after)) := by
  obtain ⟨hregistry, hnext⟩ := releaseTurn_of_release hrelease τ.memory .releasing
    fun session => .answers (.released session)
  have hcall : (τ.view ticket).call = some (.forcing key reason) := by
    rw [hview]
  have hstep := view_step_resume (s := s) hticket hcall prepared
  rw [hview, Call.resume, hnext] at hstep
  have hlt := Nat.lt_of_lt_of_le hticket (begun_le_step (s := s) τ (.resume ticket prepared))
  exact ⟨(registry_step_resume hcall prepared).trans hregistry,
    view_run_of_released hlt hstep after⟩

/-- A section of it, after any number of other steps. -/
theorem registry_step_resume_forced (hticket : ticket < σ.begun)
    (hview : σ.view ticket = forcingView key reason) (between : List (Action ω))
    (prepared : Bool) :
    (step s (σ.run s between) (.resume ticket prepared)).registry = (σ.run s between).registry ∨
      (step s (σ.run s between) (.resume ticket prepared)).registry =
        ((Call.forcing key reason).resume (σ.run s between).registry (σ.run s between).memory
          prepared).registry := by
  -- after its second section there is nothing left for it to do
  have hsettled (hsettling : Settling ((σ.run s between).view ticket)) :
      (step s (σ.run s between) (.resume ticket prepared)).registry =
        (σ.run s between).registry := by
    cases hcall : ((σ.run s between).view ticket).call with
    | none => rw [step_resume_of_over hcall]
    | some call =>
      obtain ⟨x, p, rfl⟩ := hsettling call hcall
      exact registry_step_resume hcall prepared
  rcases view_run_cases (s := s) hticket (by rw [hview]) between with
    ⟨hsame, -⟩ | ⟨hgone, -⟩ | ⟨first, ready, rest, rfl, hfirst⟩
  · exact .inr (registry_step_resume (by rw [hsame, hview]) prepared)
  · refine .inl (hsettled ?_)
    rw [hgone]
    exact settling_of_over rfl
  · refine .inl (hsettled ?_)
    have hlt := Nat.lt_of_lt_of_le hticket (begun_le_run (s := s) σ first)
    have hmore := Nat.lt_of_lt_of_le hlt
      (begun_le_step (s := s) (σ.run s first) (.resume ticket ready))
    rw [run_append, run_cons]
    refine settling_run hmore ?_ rest
    rw [view_step_resume hlt (by rw [hfirst, hview]) ready, hfirst, hview]
    rcases releaseTurn_next_cases (σ.run s first).registry (σ.run s first).memory key reason
      .releasing (fun session => .answers (.released session)) with ⟨x, hnext⟩ | ⟨x, p, hnext⟩
    · rw [Call.resume, hnext]
      exact settling_of_over rfl
    · rw [Call.resume, hnext]
      exact fun _ hsome => ⟨x, p, (Option.some.inj hsome).symm⟩

/-! ### Looking for the session of a slot -/

/-- The system after a release by force has looked for the session of its slot. -/
def look (s : Setting ω) (σ : System ω) (slot : SlotId) (reason : Termination) (d : Departures) :
    System ω :=
  step s σ (.begin (.forceRelease slot reason) d)

variable {slot : SlotId} {d : Departures}

theorem registry_look : (look s σ slot reason d).registry = σ.registry := by
  show ((Operation.forceRelease slot reason).start s (d.callers σ.mailboxes) σ.registry
    σ.memory).registry = _
  unfold Operation.start
  dsimp only
  split <;> rfl

theorem Dated.view_look_of_none (hσ : σ.Dated) (h : σ.registry.sessionIn? slot = none)
    (reason : Termination) (d : Departures) :
    (look s σ slot reason d).view σ.begun = ⟨none, [], [.released none]⟩ := by
  rw [look, hσ.view_afterBegin]
  unfold Operation.start
  dsimp only
  rw [h]
  rfl

theorem Dated.view_look_of_some (hσ : σ.Dated) (h : σ.registry.sessionIn? slot = some key)
    (reason : Termination) (d : Departures) :
    (look s σ slot reason d).view σ.begun = forcingView key reason := by
  rw [look, hσ.view_afterBegin]
  unfold Operation.start
  dsimp only
  rw [h]
  rfl

/-- A session that a release by force returns. -/
structure Hit (σ τ : System ω) (slot : SlotId) (reason : Termination) (x : Session) : Prop where
  /-- It was found on the slot. -/
  found : σ.registry.sessionIn? slot = some x.key
  /-- It is the session that occupied the slot then. -/
  occupant : ∃ y ∈ σ.registry.active, y.slot = slot ∧ Alike x y
  /-- It is released, for the reason of the call. -/
  ended : x.state = .released ∧ x.termination = some reason
  /-- It is gone for good. -/
  gone : τ.registry.session? x.key = none

/-- A forced release of `slot` that looks in `σ`, while the actions `later` are taken: every section
of it `Spares` all sessions but the one in `σ.registry.sessionIn? slot`, and no other one is in its
answers. -/
structure Precise (s : Setting ω) (σ : System ω) (slot : SlotId) (reason : Termination)
    (d : Departures) (later : List (Action ω)) : Prop where
  /-- To look changes nothing. -/
  looks : (look s σ slot reason d).registry = σ.registry
  /-- Whenever it goes on, it ends at most the session that it has found. -/
  spares : ∀ between prepared after τ, later = between ++ .resume σ.begun prepared :: after →
    τ = (look s σ slot reason d).run s between →
    Spares (σ.registry.sessionIn? slot) slot reason τ.registry
      (step s τ (.resume σ.begun prepared)).registry
  /-- When it goes on for the first time, it ends this session, unless it has gone since. -/
  second : ∀ between prepared after τ, later = between ++ .resume σ.begun prepared :: after →
    τ = (look s σ slot reason d).run s between →
    (∀ ready, .resume σ.begun ready ∉ between) → .abandon σ.begun ∉ between →
    SecondSection (σ.registry.sessionIn? slot) reason τ.registry
      (step s τ (.resume σ.begun prepared)).registry
      (((look s σ slot reason d).run s later).view σ.begun).answers
      (.abandon σ.begun ∉ after ∧ ∃ ready, .resume σ.begun ready ∈ after)
  /-- It returns no other session than the one that it has found. -/
  returns : ∀ x,
    .released (some x) ∈ (((look s σ slot reason d).run s later).view σ.begun).answers →
    Hit σ ((look s σ slot reason d).run s later) slot reason x
  /-- It returns nothing where it has found nothing. -/
  vacant : σ.registry.sessionIn? slot = none →
    (((look s σ slot reason d).run s later).view σ.begun).answers = [.released none]

theorem lt_begun_look (σ : System ω) (slot : SlotId) (reason : Termination) (d : Departures) :
    σ.begun < (look s σ slot reason d).begun :=
  Nat.lt_succ_self _

/-- The system `τ` comes later in a run than `σ`: it is `Traced`, its keys are fresh, and it has the
created sessions of `σ` and a larger number `begun`. -/
structure Later (σ τ : System ω) : Prop where
  traced : τ.Traced
  fresh : τ.FreshKeys
  created : σ.created ⊆ τ.created
  begun : σ.begun < τ.begun

theorem Traced.later_look (hσ : σ.Traced) {between : List (Action ω)}
    (hfresh : ((look s σ slot reason d).run s between).FreshKeys) :
    Later σ ((look s σ slot reason d).run s between) where
  traced := traced_run hσ (.begin (.forceRelease slot reason) d :: between) hfresh
  fresh := hfresh
  created := created_subset_run σ (.begin (.forceRelease slot reason) d :: between)
  begun := Nat.lt_of_lt_of_le (lt_begun_look σ slot reason d) (begun_le_run _ between)

/-- A key that was found belongs to a session on the slot, whatever has become of it since. -/
theorem Later.found (h : Later σ τ) (hσ : σ.Traced) (hkey : σ.registry.sessionIn? slot = some key) :
    key ∈ σ.created.map (·.key) ∧ ∀ x, τ.registry.session? key = some x →
      ∃ y ∈ σ.registry.active, y.slot = slot ∧ Alike x y := by
  obtain ⟨y, hy, hslot, rfl⟩ := hσ.orderly.tidy.seated.owned slot key hkey
  obtain ⟨z, hz, halike⟩ := hσ.origin y hy
  refine ⟨halike.key ▸ List.mem_map_of_mem hz, fun x hx => ?_⟩
  obtain ⟨hmem, hxkey⟩ := session?_eq_some hx
  exact ⟨y, hy, hslot, hσ.alike h.traced h.fresh h.created hy hmem hxkey⟩

/-- A session that is still there can be released. -/
theorem Later.release_frees (h : Later σ τ) {x : Session} (hx : τ.registry.session? key = some x)
    (reason : Termination) :
    ∃ out r', τ.registry.release key reason = (some out, r') ∧ Frees τ.registry x reason out r' := by
  obtain ⟨hmem, rfl⟩ := session?_eq_some hx
  exact Registry.release_frees h.traced.orderly.tidy.seated hmem reason

theorem Later.strikes (h : Later σ τ) (hσ : σ.Traced) (hdated : σ.Dated)
    {between : List (Action ω)} (hτ : τ = (look s σ slot reason d).run s between)
    (prepared : Bool) :
    Strikes (σ.registry.sessionIn? slot) slot reason τ.registry
      (step s τ (.resume σ.begun prepared)).registry := by
  have hlt := lt_begun_look (s := s) σ slot reason d
  cases hfound : σ.registry.sessionIn? slot with
  | none =>
    have hview := hdated.view_look_of_none (s := s) hfound reason d
    have hover : (τ.view σ.begun).call = none := by
      rw [hτ, view_run_of_over hlt (by rw [hview]), hview]
    rw [step_resume_of_over hover]
    exact .inl rfl
  | some key =>
    have hsection := registry_step_resume_forced (s := s) hlt
      (hdated.view_look_of_some (s := s) hfound reason d) between prepared
    rw [← hτ] at hsection
    rcases hsection with hsame | hsection
    · exact .inl hsame
    -- a key is given once, so what has it now is the session that was on the slot
    cases hx : τ.registry.session? key with
    | none =>
      rw [hsection, resume_forcing_of_none hx]
      exact .inl rfl
    | some x =>
      obtain ⟨out, r', hrelease, hfrees⟩ := h.release_frees hx reason
      obtain ⟨y, -, hslot, halike⟩ := (h.found hσ hfound).2 x hx
      obtain rfl := (session?_eq_some hx).2
      have hregistry : ((Call.forcing x.key reason).resume τ.registry τ.memory prepared).registry =
          r' := (releaseTurn_of_release hrelease τ.memory ..).1
      rw [hsection, hregistry]
      exact .inr ⟨x, out, rfl, halike.slot.trans hslot, hx, hfrees⟩

/-- A release by force that has not gone on yet waits with the session that it has found. -/
theorem Dated.view_before (hdated : σ.Dated) (hfound : σ.registry.sessionIn? slot = some key)
    {between : List (Action ω)} (hresume : ∀ ready, .resume σ.begun ready ∉ between)
    (habandon : .abandon σ.begun ∉ between) :
    ((look s σ slot reason d).run s between).view σ.begun = forcingView key reason := by
  have hview := hdated.view_look_of_some (s := s) hfound reason d
  have hlt := lt_begun_look (s := s) σ slot reason d
  rcases view_run_cases (s := s) hlt (by rw [hview]) between with
    ⟨hsame, -⟩ | ⟨-, hgone⟩ | ⟨first, ready, rest, rfl, -⟩
  · exact hsame.trans hview
  · exact absurd hgone habandon
  · exact absurd (List.mem_append_right _ List.mem_cons_self) (hresume ready)

theorem Later.secondSection (h : Later σ τ) (hdated : σ.Dated) {between : List (Action ω)}
    (hτ : τ = (look s σ slot reason d).run s between) (prepared : Bool) (after : List (Action ω))
    (hresume : ∀ ready, .resume σ.begun ready ∉ between) (habandon : .abandon σ.begun ∉ between) :
    SecondSection (σ.registry.sessionIn? slot) reason τ.registry
      (step s τ (.resume σ.begun prepared)).registry
      (((step s τ (.resume σ.begun prepared)).run s after).view σ.begun).answers
      (.abandon σ.begun ∉ after ∧ ∃ ready, .resume σ.begun ready ∈ after) := by
  have hwaits : ∀ key, σ.registry.sessionIn? slot = some key →
      τ.view σ.begun = forcingView key reason := fun key hfound => by
    rw [hτ]
    exact hdated.view_before hfound hresume habandon
  refine ⟨fun key hfound hnone => ?_, fun key x hfound hx => ?_⟩
  · exact forced_view_of_none h.begun (hwaits key hfound) hnone prepared after
  · obtain ⟨out, r', hrelease, hfrees⟩ := h.release_frees hx reason
    obtain ⟨rfl, hcourse⟩ :=
      forced_view (s := s) h.begun (hwaits key hfound) hrelease prepared after
    refine ⟨out, hfrees, fun hdone => ?_⟩
    rw [← hfrees.session]
    rcases hcourse with hanswers | ⟨-, hretired, hwaiting⟩
    · exact hanswers
    · obtain ⟨hstays, ready, hready⟩ := hdone.resolve_left hretired
      rcases hwaiting with hleft | hnever
      · exact absurd hleft hstays
      · exact absurd hready (hnever ready)

/-- What is returned at the end was ended in the second section. -/
theorem Later.hit (h : Later σ τ) (hσ : σ.Traced) (hfound : σ.registry.sessionIn? slot = some key)
    (hview : τ.view σ.begun = forcingView key reason) {prepared : Bool} {after : List (Action ω)}
    (hfresh : ((step s τ (.resume σ.begun prepared)).run s after).FreshKeys) {x : Session}
    (hx : .released (some x) ∈
      (((step s τ (.resume σ.begun prepared)).run s after).view σ.begun).answers) :
    Hit σ ((step s τ (.resume σ.begun prepared)).run s after) slot reason x := by
  obtain ⟨hkey, hoccupant⟩ := h.found hσ hfound
  cases hy : τ.registry.session? key with
  | none =>
    rw [(forced_view_of_none h.begun hview hy prepared after).2] at hx
    cases List.mem_singleton.1 hx
  | some y =>
    obtain ⟨z, hz, hslot, halike⟩ := hoccupant y hy
    obtain ⟨out, r', hrelease, hfrees⟩ := h.release_frees hy reason
    obtain ⟨rfl, hanswers | ⟨hnothing, -⟩⟩ :=
      forced_view (s := s) h.begun hview hrelease prepared after
    · rw [hanswers, hfrees.session] at hx
      obtain rfl : x = y.finish reason := by
        simpa using hx
      obtain rfl := (session?_eq_some hy).2
      refine ⟨hfound, ⟨z, hz, hslot, (Alike.finish y reason).trans halike⟩, ⟨rfl, rfl⟩, ?_⟩
      refine session?_run_of_over after hfresh ?_ hfrees.gone
      exact mem_created_keys_step _ (List.map_subset _ h.created hkey)
    · rw [hnothing] at hx
      cases hx

theorem Traced.hit (hσ : σ.Traced) (hdated : σ.Dated) {later : List (Action ω)}
    (hfresh : ((look s σ slot reason d).run s later).FreshKeys) {x : Session}
    (hx : .released (some x) ∈ (((look s σ slot reason d).run s later).view σ.begun).answers) :
    Hit σ ((look s σ slot reason d).run s later) slot reason x := by
  have hlt := lt_begun_look (s := s) σ slot reason d
  cases hfound : σ.registry.sessionIn? slot with
  | none =>
    have hview := hdated.view_look_of_none (s := s) hfound reason d
    rw [view_run_of_over hlt (by rw [hview]), hview] at hx
    cases List.mem_singleton.1 hx
  | some key =>
    have hview := hdated.view_look_of_some (s := s) hfound reason d
    rcases view_run_cases (s := s) hlt (by rw [hview]) later with
      ⟨hsame, -⟩ | ⟨hgone, -⟩ | ⟨between, prepared, after, rfl, hbetween⟩
    · rw [hsame, hview] at hx
      cases hx
    · rw [hgone, hview] at hx
      cases hx
    · rw [run_append] at hfresh hx ⊢
      exact (hσ.later_look hfresh.of_run).hit hσ hfound (hbetween.trans hview) hfresh hx

/-- A release by force hits the session that was on the slot when it looked, or none: however other
operations come in between, it ends no other session. -/
theorem force_release_precise (memory : ω) (before : List (Action ω)) (slot : SlotId)
    (reason : Termination) (d : Departures) (later : List (Action ω))
    (hfresh : ((look s ((initial memory).run s before) slot reason d).run s later).FreshKeys) :
    Precise s ((initial memory).run s before) slot reason d later := by
  have hdated := dated_run (s := s) memory before
  have hbefore : (((initial memory).run s before).run s
      (.begin (.forceRelease slot reason) d :: later)).FreshKeys := hfresh
  have htraced := traced_run (Traced.initial memory) before hbefore.of_run
  generalize (initial memory).run s before = σ at hfresh hdated htraced ⊢
  -- whatever comes before a section of the release is a moment after its look
  have hmoment {between rest : List (Action ω)} (hlater : later = between ++ rest) :
      Later σ ((look s σ slot reason d).run s between) := by
    rw [hlater, run_append] at hfresh
    exact htraced.later_look hfresh.of_run
  constructor
  case looks => exact registry_look
  case spares =>
    intro between prepared after τ hlater hτ
    have hτlater : Later σ τ := hτ ▸ hmoment hlater
    have hstrikes := hτlater.strikes htraced hdated hτ prepared
    exact hstrikes.spares hτlater.traced.orderly.tidy.seated
  case second =>
    intro between prepared after τ hlater hτ hresume habandon
    have hτlater : Later σ τ := hτ ▸ hmoment hlater
    have hsecond := hτlater.secondSection hdated hτ prepared after hresume habandon
    rw [hlater, run_append, run_cons, ← hτ]
    exact hsecond
  case returns => exact fun x hx => htraced.hit hdated hfresh hx
  case vacant =>
    intro hnone
    have hview := hdated.view_look_of_none (s := s) hnone reason d
    rw [view_run_of_over (lt_begun_look σ slot reason d) (by rw [hview]), hview]

/-- The only slot of a small grid. -/
def onlySlot : SlotId := ⟨"node:4444", 0⟩

/-- A grid with a session on its only slot. -/
def occupied : List (Action Unit) :=
  [.begin (.add (judgingProxy "node:4444" (.accepted, ·))) {}, .resume 0 true, .submit default,
    .begin .sweep {}]

/-- The session ends, and the slot goes to another one. -/
def rebinding : List (Action Unit) :=
  [.begin (.release ⟨⟨1⟩⟩ .timeout) {}, .submit default, .begin .sweep {}]

/-- The slot is released by force, and goes to another session before the second section. -/
def rebound : System Unit :=
  (look countingSetting ((initial ()).run countingSetting occupied) onlySlot .timeout {}).run
    countingSetting (rebinding ++ [.resume 2 true])

theorem force_release_precise_rebound :
    rebound.FreshKeys ∧
      ((initial ()).run countingSetting occupied).registry.sessionIn? onlySlot = some ⟨⟨1⟩⟩ ∧
      rebound.registry.sessionIn? onlySlot = some ⟨⟨3⟩⟩ ∧
      (rebound.view 2).answers = [.released none] := by
  have hfresh : rebound.FreshKeys := by
    unfold FreshKeys
    decide +kernel
  have hprecise : Precise countingSetting ((initial ()).run countingSetting occupied) onlySlot
      .timeout {} (rebinding ++ [.resume 2 true]) :=
    force_release_precise () occupied onlySlot .timeout {} _ hfresh
  have hfound : ((initial ()).run countingSetting occupied).registry.sessionIn? onlySlot =
      some ⟨⟨1⟩⟩ := by decide +kernel
  have hspares := hprecise.spares rebinding true [] _ rfl rfl
  have hsecond := hprecise.second rebinding true [] _ rfl rfl (by simp [rebinding])
    (by simp [rebinding])
  refine ⟨hfresh, hfound, hspares.newcomer ⟨⟨3⟩⟩ ?_ (by decide +kernel), ?_⟩
  · rw [hfound]
    decide
  · exact (hsecond.misses ⟨⟨1⟩⟩ hfound (by decide +kernel)).2

end System

end BrowserGrid.Registry
