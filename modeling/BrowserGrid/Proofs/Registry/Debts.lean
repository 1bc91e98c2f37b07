import BrowserGrid.Proofs.Registry.Mailboxes

/-!
# Sessions that a sweep has to release

A sweep that cannot hand over a session releases it in a later section.  Until then the operation
owes the session (`Call.owed`).

* `System.Tracked`: what a sweep owed is still owed by it, unless its caller went away, or the
  session is over.
* `System.Accounted`: a session that was bound was handed over, or is tracked, unless a matcher
  broke off the pass that bound it.
-/

namespace BrowserGrid.Registry

variable {ω : Type} {s : Setting ω} {callers : Callers}

/-! ### What an operation owes -/

/-- The sessions that an operation has still to release for want of a caller. -/
def Call.owed : Call ω → List SessionKey
  | .returning keys _ | .retiring _ keys _ => keys
  | _ => []

theorem afterReturn_owed {keys : List SessionKey} {key : SessionKey} (h : key ∈ keys)
    (toProvision : List Request) :
    ∃ call : Call ω, afterReturn keys toProvision = .waits call ∧ key ∈ call.owed := by
  refine ⟨.returning keys toProvision, ?_, h⟩
  rw [afterReturn, if_neg]
  simpa using List.ne_nil_of_mem h

theorem session?_eq_none_iff {r : Registry ω} {key : SessionKey} :
    r.session? key = none ↔ key ∉ r.activeKeys := by
  constructor
  · intro h hmem
    obtain ⟨x, hx, hkey⟩ := List.mem_map.1 hmem
    exact List.find?_eq_none.1 h x hx (by simpa using hkey)
  · intro h
    refine List.find?_eq_none.2 fun x hx hkey => h ?_
    exact List.mem_map.2 ⟨x, hx, by simpa using hkey⟩

theorem releaseTurn_not_active (r : Registry ω) (memory : ω) (key : SessionKey)
    (reason : Termination) (spent : Session → Proxy ω → Call ω)
    (after : Option Session → Next ω) :
    key ∉ (releaseTurn r memory key reason spent after).registry.activeKeys := by
  unfold releaseTurn
  split
  · rename_i h
    obtain ⟨hnone, rfl⟩ := eq_of_release_none h
    exact session?_eq_none_iff.1 hnone
  all_goals
    rename_i h
    obtain ⟨_, _, _, rfl⟩ := release_eq h
    intro hmem
    obtain ⟨x, hx, hkey⟩ := List.mem_map.1 hmem
    exact (mem_forget.1 hx).2 hkey

theorem releaseTurn_next_cases (r : Registry ω) (memory : ω) (key : SessionKey)
    (reason : Termination) (spent : Session → Proxy ω → Call ω)
    (after : Option Session → Next ω) :
    (∃ x, (releaseTurn r memory key reason spent after).next = after x) ∨
      ∃ x p, (releaseTurn r memory key reason spent after).next = .waits (spent x p) := by
  unfold releaseTurn
  split
  · exact .inl ⟨_, rfl⟩
  · exact .inl ⟨_, rfl⟩
  · exact .inr ⟨_, _, rfl⟩

/-- An operation that goes on releases one of the sessions that it owes, and owes the others. -/
theorem resume_owed (r : Registry ω) (memory : ω) (prepared : Bool) {c : Call ω}
    {key : SessionKey} (h : key ∈ c.owed) :
    (∃ call, (c.resume r memory prepared).next = .waits call ∧ key ∈ call.owed) ∨
      key ∉ (c.resume r memory prepared).registry.activeKeys := by
  cases c with
  | returning keys toProvision =>
    cases keys with
    | nil => cases h
    | cons first keys =>
      rw [Call.resume]
      rcases List.mem_cons.1 h with rfl | hrest
      · exact .inr (releaseTurn_not_active r memory key .clientGone _ _)
      · rcases releaseTurn_next_cases r memory first .clientGone
          (fun _ p => .retiring p keys toProvision) (fun _ => afterReturn keys toProvision) with
          ⟨_, hnext⟩ | ⟨_, p, hnext⟩
        · rw [hnext]
          exact .inl (afterReturn_owed hrest toProvision)
        · exact .inl ⟨_, hnext, hrest⟩
  | retiring spent keys toProvision => exact .inl (afterReturn_owed h toProvision)
  | clearing | preparing | discarding | removing | releasing | forcing | stopping => cases h

/-! ### What a sweep binds -/

namespace Sweep

theorem Visited.undelivered_eq {w w' : Sweep ω} {p : PendingRequest}
    (h : Visited s callers w p w')
    (hw : w.undelivered = (w.bound.filter fun x => !callers.receives x.requestId).map (·.key)) :
    w'.undelivered =
      (w'.bound.filter fun x => !callers.receives x.requestId).map (·.key) := by
  cases h with
  | discarded => exact hw
  | kept => exact hw
  | refused => exact hw
  | bound =>
    rw [deliver_undelivered, deliver_bound, withSession, List.filter_append, List.map_append, hw]
    split <;> rename_i hr <;> simp [hr]

end Sweep

theorem sweep_undelivered (s : Setting ω) (callers : Callers) (r : Registry ω) (memory : ω)
    (hbroken : (r.sweep s callers memory).broken = false) :
    (r.sweep s callers memory).undelivered =
      ((r.sweep s callers memory).bound.filter fun x =>
        !callers.receives x.requestId).map (·.key) := by
  cases hstopped : r.stopped with
  | true =>
    rw [sweep_of_stopped hstopped]
    rfl
  | false =>
    obtain ⟨_, _, w, hpassed⟩ := sweep_passed s callers hstopped memory
    rw [hpassed.undelivered_eq, hbroken, hpassed.bound_eq]
    exact hpassed.visits.preserves Sweep.Visited.undelivered_eq rfl

/-- Only a sweep binds sessions. -/
theorem eq_sweep_of_start_bound {r : Registry ω} {memory : ω} {op : Operation ω} {x : Session}
    (h : News.bound x ∈ (op.start s callers r memory).news) : op = .sweep := by
  rcases start_news h with hop | rfl | hn | ⟨_, hn⟩
  · exact hop
  · rw [Operation.start] at h
    split at h <;> simp at h
  · cases hn
  · cases hn

theorem not_mem_resume_bound (r : Registry ω) (memory : ω) (prepared : Bool) (c : Call ω)
    (x : Session) : News.bound x ∉ (c.resume r memory prepared).news := by
  intro h
  rcases resume_news h with hn | ⟨_, hn⟩ <;> cases hn

/-- A session that a sweep binds is handed over, or owed by the sweep, unless a matcher broke. -/
theorem sweep_bound_cases {r : Registry ω} {memory : ω} {x : Session}
    (h : News.bound x ∈ (Operation.sweep.start s callers r memory).news) :
    News.delivered x ∈ (Operation.sweep.start s callers r memory).news ∨
      (Operation.sweep.start s callers r memory).next = .answers .broken ∨
      ∃ call, (Operation.sweep.start s callers r memory).next = .waits call ∧
        x.key ∈ call.owed := by
  simp only [Operation.start, List.mem_append, List.mem_map] at h ⊢
  have hbound : x ∈ (r.sweep s callers memory).bound := by
    simpa using h
  cases hbroken : (r.sweep s callers memory).broken with
  | true => exact .inr (.inl rfl)
  | false =>
    cases hreceives : callers.receives x.requestId with
    | true =>
      refine .inl (.inl (.inl (.inr ⟨x, ?_, rfl⟩)))
      rw [sweep_delivered]
      exact List.mem_filter.2 ⟨hbound, hreceives⟩
    | false =>
      refine .inr (.inr ?_)
      rw [if_neg (by simp)]
      refine afterReturn_owed ?_ _
      rw [sweep_undelivered s callers r memory hbroken]
      exact List.mem_map_of_mem (List.mem_filter.2 ⟨hbound, by simp [hreceives]⟩)

/-! ### Operations under way have different numbers -/

namespace System

variable {σ τ : System ω}

/-- The operations under way have different numbers, and these have been given. -/
structure Numbered (σ : System ω) : Prop where
  nodup : (σ.calls.map (·.ticket)).Nodup
  lt : ∀ c ∈ σ.calls, c.ticket < σ.begun

theorem Numbered.initial (memory : ω) : (System.initial memory).Numbered :=
  ⟨List.nodup_nil, fun _ h => absurd h List.not_mem_nil⟩

theorem Numbered.of_sublist (hσ : σ.Numbered) (hcalls : τ.calls.Sublist σ.calls)
    (hbegun : σ.begun ≤ τ.begun) : τ.Numbered where
  nodup := hσ.nodup.sublist (hcalls.map _)
  lt := fun c hc => Nat.lt_of_lt_of_le (hσ.lt c (hcalls.subset hc)) hbegun

theorem ticket_of_mem_calls {next : Next ω} {ticket : Nat} {op : Operation ω} {c : Underway ω}
    (h : c ∈ next.calls ticket op) : c = ⟨ticket, op, c.call⟩ := by
  cases next with
  | waits call =>
    obtain rfl := List.mem_singleton.1 h
    rfl
  | answers => exact absurd h List.not_mem_nil

theorem Numbered.of_append {calls : List (Underway ω)} {next : Next ω} {ticket : Nat}
    {op : Operation ω} (hnodup : (calls.map (·.ticket)).Nodup)
    (hlt : ∀ c ∈ calls, c.ticket < τ.begun ∧ c.ticket ≠ ticket) (hticket : ticket < τ.begun)
    (hcalls : τ.calls = calls ++ next.calls ticket op) : τ.Numbered where
  nodup := by
    rw [hcalls, List.map_append, List.nodup_append]
    refine ⟨hnodup, ?_, fun n hn m hm heq => ?_⟩
    · cases next with
      | waits call => exact List.nodup_singleton _
      | answers => exact List.nodup_nil
    · obtain ⟨c, hc, rfl⟩ := List.mem_map.1 hn
      obtain ⟨d, hd, rfl⟩ := List.mem_map.1 hm
      rw [ticket_of_mem_calls hd] at heq
      exact (hlt c hc).2 heq
  lt := fun c hc => by
    rw [hcalls] at hc
    rcases List.mem_append.1 hc with hc | hc
    · exact (hlt c hc).1
    · rw [ticket_of_mem_calls hc]
      exact hticket

theorem Numbered.of_moved (h : Moved s σ τ) (hbegun : σ.begun ≤ τ.begun) (hσ : σ.Numbered) :
    τ.Numbered := by
  cases h.involved with
  | apart h => exact hσ.of_sublist (by rw [h.calls]) hbegun
  | begun ticket op callers _ hcalls _ hticket hnext =>
    refine .of_append hσ.nodup (fun c hc => ?_) (by omega) hcalls
    have hlt := hσ.lt c hc
    omega
  | resumed c hc prepared _ hcalls =>
    have hlt := hσ.lt c hc
    refine .of_append (hσ.nodup.sublist ((without_sublist σ c.ticket).map _)) (fun d hd => ?_)
      (by omega) hcalls
    obtain ⟨hd, hticket⟩ := List.mem_filter.1 hd
    have hdlt := hσ.lt d hd
    exact ⟨by omega, by simpa using hticket⟩
  | abandoned c _ _ hcalls =>
    exact hσ.of_sublist (by rw [hcalls]; exact without_sublist σ c.ticket) hbegun

theorem Numbered.eq_of_ticket (hσ : σ.Numbered) {c d : Underway ω} (hc : c ∈ σ.calls)
    (hd : d ∈ σ.calls) (h : c.ticket = d.ticket) : c = d :=
  List.inj_on_of_nodup_map hσ.nodup hc hd h

/-! ### Debts are paid -/

/-- A session that is over does not come back. -/
theorem not_active_of_moved (h : Moved s σ τ) (hfresh : τ.FreshKeys) {key : SessionKey}
    (hkey : key ∈ σ.created.map (·.key)) (hover : key ∉ σ.registry.activeKeys) :
    key ∉ τ.registry.activeKeys := by
  have hsection : ∀ {freed : Option ProxyId} {turn : Turn ω} {ticket : Nat} {op : Operation ω}
      {callers : Callers}, Section s callers σ.registry freed turn.registry turn.news →
      τ.registry = turn.registry → τ.history = σ.history ++ turn.events ticket op →
      key ∉ τ.registry.activeKeys := by
    intro freed turn ticket op callers hturn hregistry hhistory hmem
    rw [hregistry] at hmem
    obtain ⟨x, hx, rfl⟩ := List.mem_map.1 hmem
    rcases hturn.origin hx with hx | hx
    · exact hover (List.mem_map_of_mem hx)
    -- a session of this key that appears now would have been created twice
    · rw [FreshKeys, created_append hhistory, filterMap_bound?_events, List.map_append] at hfresh
      exact (List.nodup_append.1 hfresh).2.2 _ hkey _ (List.mem_map_of_mem hx) rfl
  cases h.outline with
  | quiet _ _ _ hactive => rwa [hactive]
  | begun _ op callers hregistry _ hhistory => exact hsection (start_section ..) hregistry hhistory
  | resumed c _ prepared hregistry _ hhistory =>
    exact hsection (resume_section s everybody ..) hregistry hhistory

/-- The operation `ticket` is under way and owes `key`, or it was abandoned, or `key` is none of
`σ.registry.activeKeys`. -/
def Tracked (σ : System ω) (ticket : Nat) (key : SessionKey) : Prop :=
  (∃ c ∈ σ.calls, c.ticket = ticket ∧ key ∈ c.call.owed) ∨
    (∃ op call, Event.abandoned ticket op call ∈ σ.history) ∨ key ∉ σ.registry.activeKeys

theorem Tracked.of_moved (h : Moved s σ τ) (hnumbered : σ.Numbered) (hfresh : τ.FreshKeys)
    {ticket : Nat} {key : SessionKey} (hkey : key ∈ σ.created.map (·.key))
    (ht : σ.Tracked ticket key) : τ.Tracked ticket key := by
  obtain ⟨events, hhistory⟩ := h.exists_history
  -- only the operation itself can release what it owes, or lose it with its caller
  rcases ht with ⟨c, hc, hticket, howed⟩ | ⟨op, call, habandoned⟩ | hover
  · have hothers : ∀ d ∈ σ.calls, c ≠ d → c ∈ (σ.without d.ticket).calls := fun d hd hne =>
      List.mem_filter.2 ⟨hc, by simpa using fun h => hne (hnumbered.eq_of_ticket hc hd h)⟩
    cases h.involved with
    | apart h => exact .inl ⟨c, h.calls ▸ hc, hticket, howed⟩
    | begun _ op callers _ hcalls =>
      exact .inl ⟨c, by rw [hcalls]; exact List.mem_append_left _ hc, hticket, howed⟩
    | resumed d hd prepared hregistry hcalls =>
      by_cases heq : c = d
      · subst heq
        rcases resume_owed σ.registry σ.memory prepared howed
          with ⟨call, hnext, howed'⟩ | hover
        · refine .inl ⟨⟨c.ticket, c.operation, call⟩, ?_, hticket, howed'⟩
          rw [hcalls, hnext]
          exact List.mem_append_right _ (List.mem_singleton.2 rfl)
        · exact .inr (.inr (by rw [hregistry]; exact hover))
      · refine .inl ⟨c, ?_, hticket, howed⟩
        rw [hcalls]
        exact List.mem_append_left _ (hothers d hd heq)
    | abandoned d hd _ hcalls hhistory' =>
      by_cases heq : c = d
      · subst heq
        refine .inr (.inl ⟨c.operation, c.call, ?_⟩)
        rw [hhistory', ← hticket]
        exact List.mem_append_right _ (List.mem_singleton.2 rfl)
      · exact .inl ⟨c, by rw [hcalls]; exact hothers d hd heq, hticket, howed⟩
  · exact .inr (.inl ⟨op, call, by rw [hhistory]; exact List.mem_append_left _ habandoned⟩)
  · exact .inr (.inr (not_active_of_moved h hfresh hkey hover))

/-! ### Every session is accounted for -/

/-- A session that was bound was handed over or is tracked, unless a matcher broke off the pass. -/
def Accounted (σ : System ω) : Prop :=
  ∀ ticket op x, Event.reported ticket op (.bound x) ∈ σ.history →
    Event.reported ticket op (.delivered x) ∈ σ.history ∨
      Event.answered ticket op .broken ∈ σ.history ∨ σ.Tracked ticket x.key

theorem mem_created {ticket : Nat} {op : Operation ω} {x : Session}
    (h : Event.reported ticket op (.bound x) ∈ σ.history) : x ∈ σ.created :=
  List.mem_filterMap.2 ⟨_, h, rfl⟩

theorem Accounted.of_moved (h : Moved s σ τ) (hnumbered : σ.Numbered) (hfresh : τ.FreshKeys)
    (hσ : σ.Accounted) : τ.Accounted := by
  -- what was accounted for stays so
  have hold : ∀ {events : List (Event ω)}, τ.history = σ.history ++ events → ∀ ticket op x,
      Event.reported ticket op (.bound x) ∈ σ.history →
      Event.reported ticket op (.delivered x) ∈ τ.history ∨
        Event.answered ticket op .broken ∈ τ.history ∨ τ.Tracked ticket x.key := by
    intro events hhistory ticket op x hx
    rcases hσ ticket op x hx with hdelivered | hbroken | htracked
    · exact .inl (by rw [hhistory]; exact List.mem_append_left _ hdelivered)
    · exact .inr (.inl (by rw [hhistory]; exact List.mem_append_left _ hbroken))
    · exact .inr (.inr (htracked.of_moved h hnumbered hfresh
        (List.mem_map_of_mem (mem_created hx))))
  cases h.outline with
  | quiet events hhistory hevents =>
    exact fun ticket op x hx => hold hhistory ticket op x (reported_of_quiet hhistory hevents hx)
  | begun ticket op callers _ hcalls hhistory =>
    intro ticket' op' x hx
    rw [hhistory] at hx
    rcases List.mem_append.1 hx with hx | hx
    · exact hold hhistory ticket' op' x hx
    · obtain ⟨rfl, rfl, hbound⟩ := reported_mem_events.1 hx
      obtain rfl := eq_sweep_of_start_bound hbound
      rw [hhistory]
      rcases sweep_bound_cases hbound with hdelivered | hbroken | ⟨call, hnext, howed⟩
      · exact .inl (List.mem_append_right _ (reported_mem_events.2 ⟨rfl, rfl, hdelivered⟩))
      · refine .inr (.inl (List.mem_append_right _ ?_))
        rw [Turn.events, hbroken]
        exact List.mem_append_right _ (List.mem_singleton.2 rfl)
      · refine .inr (.inr (.inl ⟨⟨ticket', .sweep, call⟩, ?_, rfl, howed⟩))
        rw [hcalls, hnext]
        exact List.mem_append_right _ (List.mem_singleton.2 rfl)
  | resumed c _ prepared _ _ hhistory =>
    intro ticket op x hx
    rw [hhistory] at hx
    rcases List.mem_append.1 hx with hx | hx
    · exact hold hhistory ticket op x hx
    · obtain ⟨_, _, hbound⟩ := reported_mem_events.1 hx
      exact absurd hbound (not_mem_resume_bound σ.registry σ.memory prepared c.call x)

end System

end BrowserGrid.Registry
