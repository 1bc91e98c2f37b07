import BrowserGrid.Proofs.Registry.Debts

/-!
# Sessions that are over

* `System.Reported`: a session that is over was reported to be over, and a sweep ends sessions for
  no other reason than that their callers are gone.
* `System.Parted`: a session that was reported to be over does not come back.
* `System.OwesUndelivered`: a sweep owes, and ends, only sessions that it could not hand over.
-/

namespace BrowserGrid.Registry

variable {ω : Type} {s : Setting ω} {callers : Callers}

/-! ### Sessions that are over have been reported -/

/-- The end of a proxy ends the sessions on its slots, and no others. -/
theorem removeProxy_ended {r r' : Registry ω} {id : ProxyId} {reason : Termination}
    {out : Removed ω} (h : r.removeProxy id reason = (some out, r')) {x : Session}
    (hx : x ∈ r.active) : x.key ∈ r'.activeKeys ∨
      ∃ y, News.ended y ∈ out.ended.map .ended ++ [.changed] ∧ y.key = x.key := by
  obtain ⟨e, _, hended, rfl⟩ := removeProxy_eq h
  by_cases hmem : x.key ∈ e.sessions
  · obtain ⟨z, hz⟩ : ∃ z, r.session? x.key = some z :=
      Option.isSome_iff_exists.1 (List.find?_isSome.2 ⟨x, hx, by simp⟩)
    refine .inr ⟨z.finish reason, List.mem_append_left _ (List.mem_map_of_mem ?_),
      (session?_eq_some hz).2⟩
    rw [hended]
    exact List.mem_filterMap.2 ⟨x.key, hmem, by rw [hz]; rfl⟩
  · exact .inl (List.mem_map_of_mem (mem_foldl_forget.2 ⟨hx, hmem⟩))

/-- A session that a section takes away is reported to be over. -/
theorem Section.ended {r r' : Registry ω} {freed : Option ProxyId} {news : List News}
    (h : Section s callers r freed r' news) {key : SessionKey} (hkey : key ∈ r.activeKeys) :
    key ∈ r'.activeKeys ∨ ∃ y, News.ended y ∈ news ∧ y.key = key := by
  obtain ⟨x, hx, rfl⟩ := List.mem_map.1 hkey
  cases h with
  | idle => exact .inl hkey
  | @released key reason out _ h =>
    obtain ⟨z, hz, hout, rfl⟩ := release_eq h
    by_cases heq : x.key = key
    · refine .inr ⟨out.session, List.mem_cons_self, ?_⟩
      rw [hout, heq]
      exact (session?_eq_some hz).2
    · exact .inl (List.mem_map_of_mem (mem_forget.2 ⟨hx, heq⟩))
  | removed h => exact removeProxy_ended h hx
  | staged h =>
    obtain ⟨_, rfl⟩ := eq_of_removeProxy_none (stage_eq h).2.2
    exact .inl hkey
  | replaced h => exact removeProxy_ended (stage_eq h).2.2 hx
  | promoted h =>
    obtain ⟨_, rfl⟩ := promote_eq h
    exact .inl hkey
  | swept memory =>
    cases hstopped : r.stopped with
    | true =>
      rw [sweep_of_stopped hstopped]
      exact .inl hkey
    | false =>
      obtain ⟨_, _, w, hpassed⟩ := sweep_passed s callers hstopped memory
      obtain ⟨xs, hactive, _⟩ := hpassed.visits.active_eq
      rw [hpassed.registry_eq]
      refine .inl (List.mem_map_of_mem ?_)
      rw [hactive]
      exact List.mem_append_left _ hx
  | stopped h =>
    obtain ⟨_, _, hended, rfl⟩ := stop_eq h
    refine .inr ⟨x.finish .registryStopped, List.mem_append_right _ (List.mem_map_of_mem ?_), rfl⟩
    rw [hended]
    exact List.mem_map_of_mem hx

/-- A session that a section binds is among the sessions afterwards. -/
theorem Section.bound_active {r r' : Registry ω} {freed : Option ProxyId} {news : List News}
    (h : Section s callers r freed r' news) {x : Session} (hx : News.bound x ∈ news) :
    x ∈ r'.active := by
  rcases h.news_cases hx with hother | ⟨_, hother⟩ | ⟨memory, rfl, rfl⟩ | ⟨out, _, rfl⟩
  · cases hother
  · cases hother
  · rw [← mem_filterMap_bound?, filterMap_bound?_news] at hx
    cases hstopped : r.stopped with
    | true =>
      rw [sweep_of_stopped hstopped] at hx
      exact absurd hx List.not_mem_nil
    | false =>
      obtain ⟨_, _, w, hpassed⟩ := sweep_passed s callers hstopped memory
      obtain ⟨xs, hactive, hbound⟩ := hpassed.visits.active_eq
      rw [hpassed.bound_eq, hbound] at hx
      rw [hpassed.registry_eq]
      show x ∈ w.active
      rw [hactive]
      exact List.mem_append_right _ hx
  · simp at hx

/-- Whether an operation is a sweep that releases what it could not hand over. -/
def Call.isReturn : Call ω → Bool
  | .returning .. | .retiring .. => true
  | _ => false

theorem afterReturn_isReturn {keys : List SessionKey} {toProvision : List Request} {call : Call ω}
    (h : afterReturn keys toProvision = .waits call) : call.isReturn = true := by
  unfold afterReturn at h
  split at h
  · cases h
  · cases h
    rfl

theorem sweep_isReturn {r : Registry ω} {memory : ω} {call : Call ω}
    (h : (Operation.sweep.start s callers r memory).next = .waits call) :
    call.isReturn = true := by
  simp only [Operation.start] at h
  split at h
  · cases h
  · exact afterReturn_isReturn h

/-- A sweep that goes on goes on releasing. -/
theorem resume_isReturn {r : Registry ω} {memory : ω} {prepared : Bool} {c call : Call ω}
    (hc : c.isReturn = true) (h : (c.resume r memory prepared).next = .waits call) :
    call.isReturn = true := by
  cases c with
  | returning keys toProvision =>
    cases keys with
    | nil => cases h
    | cons key keys =>
      rw [Call.resume] at h
      rcases releaseTurn_next_cases r memory key .clientGone
        (fun _ p => .retiring p keys toProvision) (fun _ => afterReturn keys toProvision) with
        ⟨_, hnext⟩ | ⟨_, p, hnext⟩
      · rw [hnext] at h
        exact afterReturn_isReturn h
      · rw [hnext] at h
        cases h
        rfl
  | retiring spent keys toProvision => exact afterReturn_isReturn h
  | clearing | preparing | discarding | removing | releasing | forcing | stopping => cases hc

/-- A sweep that goes on ends sessions because their callers are gone. -/
theorem resume_ended {r : Registry ω} {memory : ω} {prepared : Bool} {c : Call ω}
    (hc : c.isReturn = true) {y : Session}
    (h : News.ended y ∈ (c.resume r memory prepared).news) :
    y.termination = some .clientGone := by
  cases c with
  | returning keys toProvision =>
    cases keys with
    | nil => exact absurd h List.not_mem_nil
    | cons key keys =>
      rw [Call.resume, releaseTurn] at h
      split at h
      · exact absurd h List.not_mem_nil
      all_goals
        rename_i hrelease
        obtain ⟨x, _, hout, _⟩ := release_eq hrelease
        have hy : y = x.finish .clientGone := (by simpa using h : y = _).trans hout
        rw [hy]
        rfl
  | retiring => exact absurd h List.not_mem_nil
  | clearing | preparing | discarding | removing | releasing | forcing | stopping => cases hc

namespace System

variable {σ τ : System ω}

/-- A created session is active or has an `.ended` report, and the sessions that sweeps end have the
reason `.clientGone`. -/
structure Reported (σ : System ω) : Prop where
  /-- A session that is over has been reported. -/
  ended : ∀ x ∈ σ.created, x.key ∈ σ.registry.activeKeys ∨
    ∃ ticket op y, Event.reported ticket op (.ended y) ∈ σ.history ∧ y.key = x.key
  /-- A sweep under way is about to release sessions. -/
  returns : ∀ c ∈ σ.calls, c.operation = .sweep → c.call.isReturn = true
  /-- A sweep ends sessions because their callers are gone. -/
  reasons : ∀ ticket y, Event.reported ticket .sweep (.ended y) ∈ σ.history →
    y.termination = some .clientGone

theorem Reported.initial (memory : ω) : (System.initial memory).Reported where
  ended := fun _ h => absurd h List.not_mem_nil
  returns := fun _ h => absurd h List.not_mem_nil
  reasons := fun _ _ h => absurd h List.not_mem_nil

/-- A step that reports nothing. -/
theorem Reported.of_quiet (hσ : σ.Reported) {events : List (Event ω)}
    (hhistory : τ.history = σ.history ++ events)
    (hevents : ∀ e ∈ events, ∀ ticket op n, e ≠ .reported ticket op n)
    (hcalls : τ.calls.Sublist σ.calls)
    (hactive : τ.registry.activeKeys = σ.registry.activeKeys) : τ.Reported where
  ended := fun x hx => by
    rw [created_of_quiet hhistory hevents] at hx
    rw [hactive]
    refine (hσ.ended x hx).imp_right fun ⟨ticket, op, y, hy, hkey⟩ => ⟨ticket, op, y, ?_, hkey⟩
    rw [hhistory]
    exact List.mem_append_left _ hy
  returns := fun c hc => hσ.returns c (hcalls.subset hc)
  reasons := fun ticket y hy => hσ.reasons ticket y (reported_of_quiet hhistory hevents hy)

theorem Reported.of_section (hσ : σ.Reported) {calls : List (Underway ω)}
    {freed : Option ProxyId} {turn : Turn ω} {ticket : Nat} {op : Operation ω}
    (hsection : Section s callers σ.registry freed turn.registry turn.news)
    (hregistry : τ.registry = turn.registry)
    (hcalls : τ.calls = calls ++ turn.next.calls ticket op) (hold : calls.Sublist σ.calls)
    (hhistory : τ.history = σ.history ++ turn.events ticket op)
    (hreturns : op = .sweep → ∀ call, turn.next = .waits call → call.isReturn = true)
    (hreasons : op = .sweep → ∀ y, News.ended y ∈ turn.news →
      y.termination = some .clientGone) : τ.Reported where
  ended := fun x hx => by
    rw [hregistry, hhistory]
    rw [created_append hhistory, filterMap_bound?_events] at hx
    rcases List.mem_append.1 hx with hx | hx
    · rcases hσ.ended x hx with hx | ⟨ticket', op', y, hy, hkey⟩
      · rcases hsection.ended hx with hx | ⟨y, hy, hkey⟩
        · exact .inl hx
        · exact .inr ⟨ticket, op, y, List.mem_append_right _
            (reported_mem_events.2 ⟨rfl, rfl, hy⟩), hkey⟩
      · exact .inr ⟨ticket', op', y, List.mem_append_left _ hy, hkey⟩
    · exact .inl (List.mem_map_of_mem (hsection.bound_active (mem_filterMap_bound?.1 hx)))
  returns := fun c hc hop => by
    rw [hcalls] at hc
    rcases List.mem_append.1 hc with hc | hc
    · exact hσ.returns c (hold.subset hc) hop
    · have heq := ticket_of_mem_calls hc
      rw [heq] at hop
      exact hreturns hop c.call (Next.eq_waits_of_mem hc)
  reasons := fun ticket' y hy => by
    rw [hhistory] at hy
    rcases List.mem_append.1 hy with hy | hy
    · exact hσ.reasons ticket' y hy
    · obtain ⟨_, hop, hy⟩ := reported_mem_events.1 hy
      exact hreasons hop.symm y hy

theorem Reported.of_moved (h : Moved s σ τ) (hσ : σ.Reported) : τ.Reported := by
  cases h.outline with
  | quiet events hhistory hevents hactive _ hcalls =>
    exact hσ.of_quiet hhistory hevents hcalls hactive
  | begun ticket op callers hregistry hcalls hhistory =>
    refine hσ.of_section (start_section ..) hregistry hcalls (.refl _) hhistory ?_ ?_
    · rintro rfl call hnext
      exact sweep_isReturn hnext
    · rintro rfl y hy
      simp [Operation.start] at hy
  | resumed c hc prepared hregistry hcalls hhistory =>
    exact hσ.of_section (resume_section s everybody ..) hregistry hcalls
      (without_sublist σ c.ticket) hhistory
      (fun hop call hnext => resume_isReturn (hσ.returns c hc hop) hnext)
      fun hop y hy => resume_ended (hσ.returns c hc hop) hy

end System

/-! ### Sessions that are over do not come back -/

/-- The sessions that end with a proxy were on its slots, and are forgotten. -/
theorem removeProxy_parted {r r' : Registry ω} {id : ProxyId} {reason : Termination}
    {out : Removed ω} (h : r.removeProxy id reason = (some out, r')) {y : Session}
    (hy : News.ended y ∈ out.ended.map News.ended ++ [.changed]) :
    y.key ∈ r.activeKeys ∧ y.key ∉ r'.activeKeys := by
  obtain ⟨e, _, hended, rfl⟩ := removeProxy_eq h
  have hy : y ∈ out.ended := by simpa using hy
  rw [hended] at hy
  obtain ⟨key, hkey, hy⟩ := List.mem_filterMap.1 hy
  obtain ⟨x, hx, rfl⟩ := Option.map_eq_some_iff.1 hy
  obtain ⟨hmem, rfl⟩ := session?_eq_some hx
  refine ⟨List.mem_map.2 ⟨x, hmem, rfl⟩, fun hgone => ?_⟩
  obtain ⟨z, hz, hzkey⟩ := List.mem_map.1 hgone
  refine (mem_foldl_forget.1 hz).2 ?_
  rw [hzkey]
  exact hkey

/-- A section reports to be over what it takes away. -/
theorem Section.parted {r r' : Registry ω} {freed : Option ProxyId} {news : List News}
    (h : Section s callers r freed r' news) {y : Session} (hy : News.ended y ∈ news) :
    y.key ∈ r.activeKeys ∧ y.key ∉ r'.activeKeys := by
  cases h with
  | idle => exact absurd hy List.not_mem_nil
  | released h =>
    obtain ⟨x, hx, hout, rfl⟩ := release_eq h
    obtain ⟨hmem, rfl⟩ := session?_eq_some hx
    obtain rfl : y = x.finish _ := (by simpa using hy : y = _).trans hout
    refine ⟨List.mem_map.2 ⟨x, hmem, rfl⟩, fun hgone => ?_⟩
    obtain ⟨z, hz, hzkey⟩ := List.mem_map.1 hgone
    exact (mem_forget.1 hz).2 hzkey
  | removed h => exact removeProxy_parted h hy
  | staged => exact absurd hy List.not_mem_nil
  | replaced h => exact removeProxy_parted (stage_eq h).2.2 hy
  | promoted => split at hy <;> simp at hy
  | swept => simp [SweepResult.news] at hy
  | stopped h =>
    obtain ⟨_, _, hended, rfl⟩ := stop_eq h
    have hy : ∃ x ∈ r.active, x.finish .registryStopped = y := by simpa [hended] using hy
    obtain ⟨x, hx, rfl⟩ := hy
    exact ⟨List.mem_map.2 ⟨x, hx, rfl⟩, List.not_mem_nil⟩

namespace System

variable {σ τ : System ω}

theorem Conserved.mem_created_keys (hσ : σ.Conserved) {key : SessionKey}
    (hkey : key ∈ σ.registry.activeKeys) : key ∈ σ.created.map (·.key) := by
  obtain ⟨x, hx, rfl⟩ := List.mem_map.1 hkey
  obtain ⟨y, hy, hxy, _⟩ := hσ.origin x hx
  exact List.mem_map.2 ⟨y, hy, hxy⟩

/-- The key of a session with an `.ended` report is one of `σ.created`, and none of
`σ.registry.activeKeys`. -/
def Parted (σ : System ω) : Prop :=
  ∀ ticket op y, Event.reported ticket op (.ended y) ∈ σ.history →
    y.key ∈ σ.created.map (·.key) ∧ y.key ∉ σ.registry.activeKeys

theorem Parted.of_moved (h : Moved s σ τ) (hc : σ.Conserved) (hfresh : τ.FreshKeys)
    (hσ : σ.Parted) : τ.Parted := by
  -- what is over stays over, since its key is not drawn again
  have hold : ∀ {events : List (Event ω)}, τ.history = σ.history ++ events → ∀ ticket op y,
      Event.reported ticket op (.ended y) ∈ σ.history →
      y.key ∈ τ.created.map (·.key) ∧ y.key ∉ τ.registry.activeKeys := by
    intro events hhistory ticket op y hy
    obtain ⟨hcreated, hover⟩ := hσ ticket op y hy
    refine ⟨?_, not_active_of_moved h hfresh hcreated hover⟩
    rw [created_append hhistory, List.map_append]
    exact List.mem_append_left _ hcreated
  have hsection : ∀ {freed : Option ProxyId} {turn : Turn ω} {ticket : Nat} {op : Operation ω}
      {callers : Callers}, Section s callers σ.registry freed turn.registry turn.news →
      τ.registry = turn.registry → τ.history = σ.history ++ turn.events ticket op → τ.Parted := by
    intro freed turn ticket op callers hturn hregistry hhistory ticket' op' y hy
    rw [hhistory] at hy
    rcases List.mem_append.1 hy with hy | hy
    · exact hold hhistory ticket' op' y hy
    · obtain ⟨_, _, hended⟩ := reported_mem_events.1 hy
      obtain ⟨hactive, hover⟩ := hturn.parted hended
      rw [hregistry, created_append hhistory, List.map_append]
      exact ⟨List.mem_append_left _ (hc.mem_created_keys hactive), hover⟩
  cases h.outline with
  | quiet events hhistory hevents =>
    exact fun ticket op y hy => hold hhistory ticket op y (reported_of_quiet hhistory hevents hy)
  | begun _ op callers hregistry _ hhistory => exact hsection (start_section ..) hregistry hhistory
  | resumed c _ prepared hregistry _ hhistory =>
    exact hsection (resume_section s everybody ..) hregistry hhistory

end System

/-! ### A sweep ends only what it could not hand over -/

/-- What an operation owes after a section it owed before. -/
theorem resume_owed_subset {r : Registry ω} {memory : ω} {prepared : Bool} {c call : Call ω}
    (h : (c.resume r memory prepared).next = .waits call) : call.owed ⊆ c.owed := by
  have hafter : ∀ {keys : List SessionKey} {toProvision : List Request},
      afterReturn keys toProvision = .waits call → call.owed ⊆ keys := by
    intro keys toProvision h
    unfold afterReturn at h
    split at h
    · cases h
    · cases h
      exact List.Subset.refl _
  cases c with
  | clearing stale new =>
    cases h
    exact List.Subset.refl _
  | preparing new =>
    unfold Call.resume at h
    dsimp only at h
    split at h <;> cases h
    exact List.Subset.refl _
  | forcing key reason =>
    rcases releaseTurn_next_cases r memory key reason .releasing
      (fun session => .answers (.released session)) with ⟨_, hnext⟩ | ⟨_, _, hnext⟩ <;>
      cases hnext.symm.trans h
    exact List.Subset.refl _
  | returning keys toProvision =>
    cases keys with
    | nil => cases h
    | cons key keys =>
      -- the first session is released now, the others are still owed
      refine List.Subset.trans ?_ (List.subset_cons_self key keys)
      rcases releaseTurn_next_cases r memory key .clientGone
        (fun _ p => .retiring p keys toProvision) (fun _ => afterReturn keys toProvision) with
        ⟨_, hnext⟩ | ⟨_, p, hnext⟩
      · exact hafter (hnext.symm.trans h)
      · cases hnext.symm.trans h
        exact List.Subset.refl _
  | retiring spent keys toProvision => exact hafter h
  | discarding | removing | releasing | stopping => cases h

/-- An operation that begins owes something only if it is a sweep that could not hand it over. -/
theorem start_owed {r : Registry ω} {memory : ω} {op : Operation ω} {call : Call ω}
    (h : (op.start s callers r memory).next = .waits call) {key : SessionKey}
    (hkey : key ∈ call.owed) : op = .sweep ∧ (r.sweep s callers memory).broken = false ∧
      key ∈ (r.sweep s callers memory).undelivered := by
  have hbegins := start_begins s callers r memory op
  generalize op.start s callers r memory = turn at hbegins h
  cases hbegins with
  | refused | missing | vacant | broken | swept | halted => cases h
  | staged | removed | occupied | stopped =>
    cases h
    exact absurd hkey List.not_mem_nil
  | replaced p =>
    cases h
    split at hkey <;> exact absurd hkey List.not_mem_nil
  | released key' reason =>
    rcases releaseTurn_next_cases r memory key' reason .releasing
      (fun session => .answers (.released session)) with ⟨_, hnext⟩ | ⟨_, _, hnext⟩ <;>
      cases hnext.symm.trans h
    exact absurd hkey List.not_mem_nil
  | returning hbroken =>
    cases h
    exact ⟨rfl, hbroken, hkey⟩

/-- A sweep that goes on ends what it owed. -/
theorem resume_ended_owed {r : Registry ω} {memory : ω} {prepared : Bool} {c : Call ω}
    (hc : c.isReturn = true) {y : Session}
    (h : News.ended y ∈ (c.resume r memory prepared).news) : y.key ∈ c.owed := by
  cases c with
  | returning keys toProvision =>
    cases keys with
    | nil => exact absurd h List.not_mem_nil
    | cons key keys =>
      rw [Call.resume, releaseTurn] at h
      split at h
      · exact absurd h List.not_mem_nil
      all_goals
        rename_i hrelease
        obtain ⟨x, hx, hout, _⟩ := release_eq hrelease
        have hy : y = x.finish .clientGone := (by simpa using h : y = _).trans hout
        rw [hy]
        exact List.mem_cons.2 (.inl (session?_eq_some hx).2)
  | retiring => exact absurd h List.not_mem_nil
  | clearing | preparing | discarding | removing | releasing | forcing | stopping => cases hc

/-- A section hands over only what it binds. -/
theorem Section.delivered_bound {r r' : Registry ω} {freed : Option ProxyId} {news : List News}
    (h : Section s callers r freed r' news) {x : Session} (hx : News.delivered x ∈ news) :
    x ∈ news.filterMap News.bound? := by
  rcases h.news_cases hx with hother | ⟨_, hother⟩ | ⟨memory, _, rfl⟩ | ⟨out, _, rfl⟩
  · cases hother
  · cases hother
  · have hx : x ∈ (r.sweep s callers memory).delivered := by simpa [SweepResult.news] using hx
    rw [filterMap_bound?_news]
    rw [sweep_delivered] at hx
    exact List.mem_of_mem_filter hx
  · simp at hx

namespace System

variable {σ τ : System ω}

/-- The session of a key was created and not handed over. -/
def Undelivered (σ : System ω) (key : SessionKey) : Prop :=
  key ∈ σ.created.map (·.key) ∧
    ∀ ticket op x, Event.reported ticket op (.delivered x) ∈ σ.history → x.key ≠ key

/-- A session is created in the step in which it is handed over. -/
theorem Moved.delivered_bound (h : Moved s σ τ) {events : List (Event ω)}
    (hhistory : τ.history = σ.history ++ events) {ticket : Nat} {op : Operation ω} {x : Session}
    (hx : Event.reported ticket op (.delivered x) ∈ events) :
    x ∈ events.filterMap Event.bound? := by
  have hsection : ∀ {r' : Registry ω} {freed : Option ProxyId} {turn : Turn ω} {ticket' : Nat}
      {op' : Operation ω} {callers : Callers}, Section s callers σ.registry freed r' turn.news →
      τ.history = σ.history ++ turn.events ticket' op' → x ∈ events.filterMap Event.bound? := by
    intro r' freed turn ticket' op' callers hturn heq
    rw [heq, List.append_cancel_left_eq] at hhistory
    rw [← hhistory] at hx ⊢
    rw [filterMap_bound?_events]
    exact hturn.delivered_bound (reported_mem_events.1 hx).2.2
  cases h.outline with
  | quiet events' heq hevents =>
    rw [heq, List.append_cancel_left_eq] at hhistory
    exact absurd rfl (hevents _ (hhistory ▸ hx) ticket op _)
  | begun _ op callers _ _ heq => exact hsection (start_section ..) heq
  | resumed c _ prepared _ _ heq => exact hsection (resume_section s everybody ..) heq

theorem Undelivered.of_moved (h : Moved s σ τ) (hfresh : τ.FreshKeys) {key : SessionKey}
    (hσ : σ.Undelivered key) : τ.Undelivered key := by
  obtain ⟨events, hhistory⟩ := h.exists_history
  have hcreated := created_append hhistory
  rw [FreshKeys, hcreated, List.map_append] at hfresh
  refine ⟨?_, fun ticket op x hx heq => ?_⟩
  · rw [hcreated, List.map_append]
    exact List.mem_append_left _ hσ.1
  · rw [hhistory] at hx
    rcases List.mem_append.1 hx with hx | hx
    · exact hσ.2 ticket op x hx heq
    · exact (List.nodup_append.1 hfresh).2.2 key hσ.1 key
        (heq ▸ List.mem_map_of_mem (h.delivered_bound hhistory hx)) rfl

/-- The keys in `c.call.owed` of every call under way, and those of the sessions that a sweep has
ended, are `Undelivered`; a delivered session is among `σ.created`. -/
structure OwesUndelivered (σ : System ω) : Prop where
  /-- What is handed over has been created. -/
  created : ∀ ticket op x, Event.reported ticket op (.delivered x) ∈ σ.history → x ∈ σ.created
  /-- What is owed was not handed over. -/
  owed : ∀ c ∈ σ.calls, ∀ key ∈ c.call.owed, σ.Undelivered key
  /-- What a sweep has ended was not handed over. -/
  ended : ∀ ticket y, Event.reported ticket .sweep (.ended y) ∈ σ.history → σ.Undelivered y.key

theorem OwesUndelivered.initial (memory : ω) : (System.initial memory).OwesUndelivered where
  created := fun _ _ _ h => absurd h List.not_mem_nil
  owed := fun _ h => absurd h List.not_mem_nil
  ended := fun _ _ h => absurd h List.not_mem_nil

/-- A sweep that begins owes what it does not hand over. -/
theorem OwesUndelivered.undelivered_of_begun (hσ : σ.OwesUndelivered) (hfresh : τ.FreshKeys)
    {ticket : Nat} {memory : ω}
    (hhistory : τ.history = σ.history ++
      (Operation.sweep.start s callers σ.registry memory).events ticket .sweep)
    (hbroken : (σ.registry.sweep s callers memory).broken = false) {key : SessionKey}
    (hkey : key ∈ (σ.registry.sweep s callers memory).undelivered) : τ.Undelivered key := by
  have hnews : (Operation.sweep.start s callers σ.registry memory).news =
      (σ.registry.sweep s callers memory).news := rfl
  have hcreated := created_append hhistory
  rw [filterMap_bound?_events, hnews, filterMap_bound?_news] at hcreated
  rw [FreshKeys, hcreated, List.map_append, List.nodup_append] at hfresh
  rw [sweep_undelivered s callers σ.registry memory hbroken] at hkey
  obtain ⟨x, hx, rfl⟩ := List.mem_map.1 hkey
  -- what is owed was bound in this pass, for a caller that does not receive
  obtain ⟨hx, hgone⟩ := List.mem_filter.1 hx
  refine ⟨?_, fun ticket' op' y hy heq => ?_⟩
  · rw [hcreated, List.map_append]
    exact List.mem_append_right _ (List.mem_map_of_mem hx)
  · rw [hhistory] at hy
    rcases List.mem_append.1 hy with hy | hy
    · exact hfresh.2.2 y.key (List.mem_map_of_mem (hσ.created ticket' op' y hy)) x.key
        (List.mem_map_of_mem hx) heq
    · -- of two sessions of one key that are bound in one pass, one is the other
      obtain ⟨_, _, hy⟩ := reported_mem_events.1 hy
      have hy : y ∈ (σ.registry.sweep s callers memory).delivered := by
        simpa [hnews, SweepResult.news] using hy
      rw [sweep_delivered] at hy
      obtain ⟨hy, hreceives⟩ := List.mem_filter.1 hy
      obtain rfl := List.inj_on_of_nodup_map hfresh.2.1 hy hx heq
      rw [hreceives] at hgone
      cases hgone

theorem OwesUndelivered.of_moved (h : Moved s σ τ) (hreported : σ.Reported) (hfresh : τ.FreshKeys)
    (hσ : σ.OwesUndelivered) : τ.OwesUndelivered := by
  obtain ⟨events, hevents⟩ := h.exists_history
  have hkeep : ∀ {key : SessionKey}, σ.Undelivered key → τ.Undelivered key := fun hkey =>
    hkey.of_moved h hfresh
  have hcreated : ∀ ticket op x, Event.reported ticket op (.delivered x) ∈ τ.history →
      x ∈ τ.created := by
    intro ticket op x hx
    rw [created_append hevents]
    rw [hevents] at hx
    rcases List.mem_append.1 hx with hx | hx
    · exact List.mem_append_left _ (hσ.created ticket op x hx)
    · exact List.mem_append_right _ (h.delivered_bound hevents hx)
  cases h.outline with
  | quiet events' hhistory hnone _ _ hcalls =>
    exact ⟨hcreated, fun c hc key hkey => hkeep (hσ.owed c (hcalls.subset hc) key hkey),
      fun ticket y hy => hkeep (hσ.ended ticket y (reported_of_quiet hhistory hnone hy))⟩
  | begun ticket op callers _ hcalls hhistory =>
    refine ⟨hcreated, fun c hc key hkey => ?_, fun ticket' y hy => ?_⟩
    · rw [hcalls] at hc
      rcases List.mem_append.1 hc with hc | hc
      · exact hkeep (hσ.owed c hc key hkey)
      · obtain ⟨rfl, hbroken, hkey⟩ := start_owed (Next.eq_waits_of_mem hc) hkey
        exact hσ.undelivered_of_begun hfresh hhistory hbroken hkey
    · rw [hhistory] at hy
      rcases List.mem_append.1 hy with hy | hy
      · exact hkeep (hσ.ended ticket' y hy)
      · obtain ⟨_, rfl, hy⟩ := reported_mem_events.1 hy
        simp [Operation.start] at hy
  | resumed c hc prepared _ hcalls hhistory =>
    refine ⟨hcreated, fun d hd key hkey => ?_, fun ticket' y hy => ?_⟩
    · rw [hcalls] at hd
      rcases List.mem_append.1 hd with hd | hd
      · exact hkeep (hσ.owed d ((without_sublist σ c.ticket).subset hd) key hkey)
      · exact hkeep (hσ.owed c hc key (resume_owed_subset (Next.eq_waits_of_mem hd) hkey))
    · rw [hhistory] at hy
      rcases List.mem_append.1 hy with hy | hy
      · exact hkeep (hσ.ended ticket' y hy)
      · obtain ⟨_, hop, hy⟩ := reported_mem_events.1 hy
        exact hkeep (hσ.owed c hc y.key
          (resume_ended_owed (hreported.returns c hc hop.symm) hy))

end System

end BrowserGrid.Registry
