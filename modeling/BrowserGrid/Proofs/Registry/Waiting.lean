import BrowserGrid.Proofs.Registry.Verdicts

/-!
# What a wait returns

The deadline of a wait, the withdrawal of its request and the delivery of a session are three steps
with anything in between.  A wait that has returned has returned what became of its request
(`Waiting.Explained`), and a wait that found nothing to withdraw finds a reply.

* `System.served_run`: along a run every wait is explained by the fate of its request.
* `System.wait_outcome`: what a result says about the request, for good; that a wait whose request
  was bound returns the session; that the last look into the mailbox never finds it empty.
-/

namespace BrowserGrid.Registry

variable {ω : Type} {s : Setting ω}

/-! ### Waits and fates -/

/-- The fate of a request by the result of a wait for it: bound to the session that is returned,
withdrawn by the wait itself, or withdrawn or discarded by others. -/
def Explains : Except RegistryError Session → Fate → Prop
  | .ok x, f => f = .bound x
  | .error (.timeout _), f => f = .withdrawn true
  | .error .cancelled, f =>
    f = .withdrawn false ∨ f = .discarded .registryStopped ∨ f = .discarded .sweepBroken
  | .error _, _ => False

/-- What a wait under way does of its own accord once its request has left the queue. -/
def Waiting.course (id : RequestId) : Waiting → List (Action ω)
  | .listening _ | .receiving => [.receive id]
  | .withdrawing _ => [.giveUp id, .receive id]
  | .idle | .returned _ => []

/-- Whether a wait has begun and not returned. -/
def Waiting.isUnderway : Waiting → Bool
  | .listening _ | .withdrawing _ | .receiving => true
  | .idle | .returned _ => false

/-- A wait is `receiving` only if its request has left the queue, and what it has returned
`Explains` the fate of the request. -/
def Waiting.Explained : Waiting → Fate → Prop
  | .receiving, f => f ≠ .queued
  | .returned result, f => Explains result f
  | .idle, _ | .listening _, _ | .withdrawing _, _ => True

theorem Explains.eq_of_bound {result : Except RegistryError Session} {x : Session}
    (h : Explains result (.bound x)) : result = .ok x := by
  cases result with
  | ok y =>
    obtain rfl := Fate.bound.inj h
    rfl
  | error e => cases e <;> simp [Explains] at h

theorem Explains.ne_queued {result : Except RegistryError Session} {f : Fate}
    (h : Explains result f) : f ≠ .queued := by
  rintro rfl
  cases result with
  | ok x => cases h
  | error e => cases e <;> simp [Explains] at h

/-- What is true of a request in the queue stays true whatever becomes of it. -/
theorem Waiting.Explained.of_queued {w : Waiting} (h : w.Explained .queued) (f : Fate) :
    w.Explained f := by
  cases w with
  | receiving => exact absurd rfl h
  | returned result => exact absurd rfl h.ne_queued
  | idle | listening | withdrawing => exact trivial

/-- A reply in a mailbox whose handle is held says what became of the request. -/
theorem Mailbox.Agrees.explains {m : Mailbox} {f : Fate} (hm : m.Agrees f)
    (hheld : m.held = true) {result : Except RegistryError Session}
    (h : m.reply.outcome? = some result) : Explains result f := by
  cases f with
  | queued =>
    rw [show m.reply = .awaited from hm] at h
    cases h
  | bound x =>
    rcases hm with hreply | ⟨_, hgone⟩
    · rw [hreply] at h
      cases h
      rfl
    · rw [hheld] at hgone
      cases hgone
  | withdrawn own =>
    rw [hm.1] at h
    cases h
    cases own with
    | false => exact .inl rfl
    | true => exact absurd (hm.2 rfl) (by simp [hheld])
  | discarded why =>
    rw [hm.1] at h
    cases h
    cases why with
    | callerGone => exact absurd (hm.2 rfl) (by simp [hheld])
    | sweepBroken => exact .inr (.inr rfl)
    | registryStopped => exact .inr (.inl rfl)

/-- A mailbox whose handle is held is not empty once the request has left the queue. -/
theorem Mailbox.Agrees.exists_outcome {m : Mailbox} {f : Fate} (hm : m.Agrees f)
    (hheld : m.held = true) (hf : f ≠ .queued) : ∃ result, m.reply.outcome? = some result := by
  cases f with
  | queued => exact absurd rfl hf
  | bound x =>
    rcases hm with hreply | ⟨_, hgone⟩
    · exact ⟨_, by rw [hreply]; rfl⟩
    · rw [hheld] at hgone
      cases hgone
  | withdrawn own => exact ⟨_, by rw [hm.1]; rfl⟩
  | discarded why => exact ⟨_, by rw [hm.1]; rfl⟩

namespace System

variable {σ τ : System ω}

/-- The mailbox that a wait looks into. -/
theorem Told.exists_mailbox (hσ : σ.Told) (hfresh : σ.FreshRequests) {id : RequestId}
    (hheld : isHeld σ.mailboxes id = true) :
    ∃ m ∈ σ.mailboxes, m.request = id ∧ m.held = true ∧ replyTo σ.mailboxes id = m.reply := by
  obtain ⟨m, hm, hmid⟩ := List.any_eq_true.1 hheld
  simp only [Bool.and_eq_true, decide_eq_true_eq] at hmid
  obtain ⟨rfl, hmheld⟩ := hmid
  refine ⟨m, hm, rfl, hmheld, ?_⟩
  obtain ⟨n, hn⟩ : ∃ n, σ.mailboxes.find? (·.request = m.request) = some n :=
    Option.isSome_iff_exists.1 (List.find?_isSome.2 ⟨m, hm, by simp⟩)
  have hrequest : n.request = m.request := by simpa using List.find?_some hn
  have hnodup : (σ.mailboxes.map (·.request)).Nodup := hσ.requests ▸ hfresh
  -- a request has one mailbox, so the one that is looked into is the one whose handle is held
  have hnm := List.inj_on_of_nodup_map hnodup (List.mem_of_find?_eq_some hn) hm hrequest
  rw [replyTo, hn, hnm]
  rfl

/-- Every wait that has begun is explained by the fate of its request. -/
def Waited (σ : System ω) : Prop :=
  ∀ id, σ.waits id ≠ .idle → ∃ f, σ.fates id = [f] ∧ (σ.waits id).Explained f

theorem Waited.initial (memory : ω) : (System.initial memory).Waited :=
  fun _ h => absurd rfl h

/-- What becomes of a request keeps its wait explained. -/
theorem Conserved.exists_fate_later (hσ : σ.Conserved) (hτ : τ.Conserved)
    (hfresh : τ.FreshRequests) {events : List (Event ω)}
    (hhistory : τ.history = σ.history ++ events) {id : RequestId} {f : Fate}
    (hf : σ.fates id = [f]) :
    ∃ g, τ.fates id = [g] ∧ ∀ w : Waiting, w.Explained f → w.Explained g := by
  by_cases hqueued : f = .queued
  · have hadmitted : id ∈ τ.admitted := by
      rw [admitted_append hhistory]
      refine List.mem_append_left _ (List.count_pos_iff.1 ?_)
      rw [← hσ.balance id, hf]
      exact Nat.one_pos
    obtain ⟨g, hg⟩ := hτ.exists_fate hfresh hadmitted
    exact ⟨g, hg, fun w hw => (hqueued ▸ hw).of_queued g⟩
  · exact ⟨f, hσ.fates_final hτ hfresh hhistory hf hqueued, fun _ hw => hw⟩

/-! ### How a wait comes further -/

/-- The wait for `id` before and after a step by an action that changes it, with what the mailbox
and the queue of `σ` say of `id`. -/
inductive Further (σ : System ω) (id : RequestId) : Action ω → Waiting → Waiting → Prop where
  /-- It begins. -/
  | began (hheld : isHeld σ.mailboxes id = true) (timeout : Duration) :
    Further σ id (.wait id timeout) .idle (.listening timeout)
  /-- It finds a reply. -/
  | received (hheld : isHeld σ.mailboxes id = true) {w : Waiting} (hw : w.looks = true)
    {result : Except RegistryError Session}
    (hresult : (replyTo σ.mailboxes id).outcome? = some result) :
    Further σ id (.receive id) w (.returned result)
  /-- Its time is over. -/
  | expired (hheld : isHeld σ.mailboxes id = true) (timeout : Duration) :
    Further σ id (.expire id) (.listening timeout) (.withdrawing timeout)
  /-- It withdraws its request. -/
  | withdrew (hheld : isHeld σ.mailboxes id = true) (timeout : Duration)
    (hfound : (σ.registry.withdraw id).1 = true) :
    Further σ id (.giveUp id) (.withdrawing timeout) (.returned (.error (.timeout timeout)))
  /-- Its request is not there to be withdrawn. -/
  | missed (hheld : isHeld σ.mailboxes id = true) (timeout : Duration)
    (hfound : (σ.registry.withdraw id).1 = false) :
    Further σ id (.giveUp id) (.withdrawing timeout) .receiving

theorem setWait_waits (σ : System ω) (id : RequestId) (w : Waiting) (other : RequestId) :
    (σ.setWait id w).waits other = if other = id then w else σ.waits other := rfl

/-- If one wait comes further, the others stay where they are. -/
theorem Further.of_set {a : Action ω} {other : RequestId} {w : Waiting}
    (h : Further σ other a (σ.waits other) w) {ρ : System ω}
    (hρ : ρ.waits = (σ.setWait other w).waits) (id : RequestId) :
    ρ.waits id = σ.waits id ∨ Further σ id a (σ.waits id) (ρ.waits id) := by
  rw [hρ, setWait_waits]
  by_cases heq : id = other
  · subst heq
    rw [if_pos rfl]
    exact .inr h
  · exact .inl (if_neg heq)

/-- In a step a wait stays where it is or comes further. -/
theorem waits_step (σ : System ω) (a : Action ω) (id : RequestId) :
    (step s σ a).waits id = σ.waits id ∨ Further σ id a (σ.waits id) ((step s σ a).waits id) := by
  cases a with
  | resume ticket prepared =>
    rw [step, afterResume]
    split <;> exact .inl rfl
  | abandon ticket =>
    rw [step, afterAbandon]
    split <;> exact .inl rfl
  | wait other timeout =>
    rw [step, afterWait]
    split
    · rename_i hheld hidle
      have hfurther : Further σ other (.wait other timeout) (σ.waits other) (.listening timeout) :=
        hidle ▸ .began hheld timeout
      exact hfurther.of_set rfl id
    · exact .inl rfl
  | receive other =>
    rw [step, afterReceive]
    split
    · rename_i hready
      rw [Bool.and_eq_true] at hready
      split
      · rename_i hresult
        exact (Further.received hready.1 hready.2 hresult).of_set rfl id
      · exact .inl rfl
    · exact .inl rfl
  | expire other =>
    rw [step, afterExpire]
    split
    · rename_i timeout hheld hlistening
      have hfurther : Further σ other (.expire other) (σ.waits other) (.withdrawing timeout) :=
        hlistening ▸ .expired hheld timeout
      exact hfurther.of_set rfl id
    · exact .inl rfl
  | giveUp other =>
    rw [step, afterGiveUp]
    split
    · rename_i timeout hheld hwithdrawing
      dsimp only
      split
      · rename_i hfound
        have hfurther : Further σ other (.giveUp other) (σ.waits other)
            (.returned (.error (.timeout timeout))) :=
          hwithdrawing ▸ .withdrew hheld timeout hfound
        exact hfurther.of_set rfl id
      · rename_i hfound
        have hfurther : Further σ other (.giveUp other) (σ.waits other) .receiving :=
          hwithdrawing ▸ .missed hheld timeout (Bool.eq_false_iff.2 hfound)
        exact hfurther.of_set rfl id
    · exact .inl rfl
  | submit | withdraw | activate | provisioningFailed | begin | depart | remember => exact .inl rfl

/-- A wait that comes further is explained by what the step makes of its request. -/
theorem Further.explained {id : RequestId} {a : Action ω} {w w' : Waiting}
    (h : Further σ id a w w') (hw : σ.waits id = w) (ht : σ.Told) (hc : σ.Conserved)
    (hfresh : σ.FreshRequests) (hc' : (step s σ a).Conserved)
    (hfresh' : (step s σ a).FreshRequests) :
    ∃ f, (step s σ a).fates id = [f] ∧ w'.Explained f := by
  obtain ⟨events, hhistory⟩ := (step_moved (s := s) σ a).exists_history
  have hheld : isHeld σ.mailboxes id = true := by cases h <;> assumption
  obtain ⟨m, hm, rfl, hmheld, hreply⟩ := ht.exists_mailbox hfresh hheld
  obtain ⟨f, hf⟩ := hc.exists_fate hfresh (ht.mem_admitted hm)
  obtain ⟨g, hg, hlater⟩ := hc.exists_fate_later hc' hfresh' hhistory hf
  refine ⟨g, hg, ?_⟩
  cases h with
  | began _ timeout => exact trivial
  | received _ _ hresult =>
    rw [hreply] at hresult
    exact hlater (.returned _) ((ht.agrees m hm f hf).explains hmheld hresult)
  | expired _ timeout => exact trivial
  | withdrew _ timeout hfound =>
    -- the withdrawal is the event that decides the fate
    have hhistory' : (step s σ (.giveUp m.request)).history =
        σ.history ++ [.withdrawal m.request true true] := by
      rw [step, afterGiveUp, hheld, hw]
      dsimp only
      rw [if_pos hfound, ← hfound]
      rfl
    rcases fates_step hhistory' hf hg with ⟨hnone, _⟩ | ⟨_, hone⟩
    · simp [Event.fate?] at hnone
    · simp only [Event.fate?, and_self, if_true, List.filterMap_cons, List.filterMap_nil] at hone
      exact (List.cons.inj hone).1.symm
  | missed _ timeout hfound =>
    -- were the request still queued, the withdrawal would have found it
    refine hlater .receiving fun hqueued => ?_
    have hpos : 0 < queuedIn σ.registry.pending m.request :=
      queuedIn_pos_of_fates (by rw [hf, hqueued]; exact List.mem_singleton.2 rfl)
    rw [(withdraw_found ..).2 hpos] at hfound
    cases hfound

theorem Waited.step (hσ : σ.Waited) (ht : σ.Told) (hc : σ.Conserved) (a : Action ω)
    (hfresh : (System.step s σ a).FreshRequests) : (System.step s σ a).Waited := by
  obtain ⟨events, hhistory⟩ := (step_moved (s := s) σ a).exists_history
  have hstart := hfresh.of_history hhistory
  have hc' := hc.of_moved (step_moved (s := s) σ a) hstart
  intro id hid
  -- a wait that stays where it is stays explained; one that comes further is explained anew
  rcases waits_step (s := s) σ a id with hsame | hfurther
  · rw [hsame] at hid ⊢
    obtain ⟨f, hf, hw⟩ := hσ id hid
    obtain ⟨g, hg, hlater⟩ := hc.exists_fate_later hc' hfresh hhistory hf
    exact ⟨g, hg, hlater _ hw⟩
  · exact hfurther.explained rfl ht hc hstart hc' hfresh

/-- The invariants of requests, mailboxes and waits that are proved in one induction over a run. -/
structure Served (σ : System ω) : Prop where
  conserved : σ.Conserved
  told : σ.Told
  waited : σ.Waited

theorem Served.initial (memory : ω) : (System.initial memory).Served :=
  ⟨.initial memory, .initial memory, .initial memory⟩

theorem served_run (hσ : σ.Served) (actions : List (Action ω))
    (hfresh : (σ.run s actions).FreshRequests) : (σ.run s actions).Served := by
  induction actions generalizing σ with
  | nil => exact hσ
  | cons a actions ih =>
    have hrest : ((System.step s σ a).run s actions).FreshRequests := hfresh
    have hstart : σ.FreshRequests := hfresh.of_run
    refine ih ⟨?_, ?_, ?_⟩ hrest
    · exact hσ.conserved.of_moved (step_moved σ a) hstart
    · exact .of_posted (step_posted σ a) hσ.told hσ.conserved hstart
    · exact hσ.waited.step hσ.told hσ.conserved a hrest.of_run

/-! ### Results -/

/-- A wait under way that looks into its mailbox returns what became of its request, unless the
request is still in the queue. -/
theorem Served.receive (hσ : σ.Served) (hfresh : σ.FreshRequests) {id : RequestId}
    (hheld : isHeld σ.mailboxes id = true) (hlooks : (σ.waits id).looks = true) {f : Fate}
    (hf : σ.fates id = [f]) (hqueued : f ≠ .queued) :
    ∃ result, (step s σ (.receive id)).waits id = .returned result ∧ Explains result f := by
  obtain ⟨m, hm, rfl, hmheld, hreply⟩ := hσ.told.exists_mailbox hfresh hheld
  have hagrees := hσ.told.agrees m hm f hf
  obtain ⟨result, hresult⟩ := hagrees.exists_outcome hmheld hqueued
  refine ⟨result, ?_, hagrees.explains hmheld hresult⟩
  have hready : (isHeld σ.mailboxes m.request && (σ.waits m.request).looks) = true := by
    rw [hheld, hlooks]
    rfl
  rw [step, afterReceive, if_pos hready, hreply, hresult]
  exact if_pos rfl

/-- A wait whose request has left the queue returns what became of it. -/
theorem Served.course (hσ : σ.Served) (hfresh : σ.FreshRequests) {id : RequestId}
    (hheld : isHeld σ.mailboxes id = true) (hunderway : (σ.waits id).isUnderway = true) {f : Fate}
    (hf : σ.fates id = [f]) (hqueued : f ≠ .queued) :
    ∃ result, (σ.run s ((σ.waits id).course id)).waits id = .returned result ∧
      Explains result f := by
  cases hw : σ.waits id with
  | idle | returned =>
    rw [hw] at hunderway
    cases hunderway
  | listening timeout => exact hσ.receive (s := s) hfresh hheld (by rw [hw]; rfl) hf hqueued
  | receiving => exact hσ.receive (s := s) hfresh hheld (by rw [hw]; rfl) hf hqueued
  | withdrawing timeout =>
    -- the request is not in the queue any more, so there is nothing to withdraw
    have hnone : (σ.registry.withdraw id).1 = false := by
      refine Bool.eq_false_iff.2 fun hfound => ?_
      have hpos := (withdraw_found ..).1 hfound
      have hlength := length_fates σ id
      rw [hf, history_of_fates hf hqueued, List.length_singleton] at hlength
      omega
    have hgiveUp : step s σ (.giveUp id) = (σ.afterWithdrawal id true).setWait id .receiving := by
      rw [step, afterGiveUp, hheld, hw]
      dsimp only
      rw [if_neg (by simp [hnone])]
    have hhistory : (step s σ (.giveUp id)).history =
        σ.history ++ [.withdrawal id true (σ.registry.withdraw id).1] := by
      rw [hgiveUp]
      rfl
    have hfresh' : (step s σ (.giveUp id)).FreshRequests := by
      rw [FreshRequests, admitted_append hhistory]
      exact (List.append_nil _).symm ▸ hfresh
    have hσ' : (step s σ (.giveUp id)).Served :=
      served_run (s := s) hσ [.giveUp id] hfresh'
    refine hσ'.receive (s := s) hfresh' ?_ ?_ ?_ hqueued
    · rw [hgiveUp, setWait, afterWithdrawal, hnone]
      exact hheld
    · rw [hgiveUp, setWait_waits, if_pos rfl]
      rfl
    · exact hσ.conserved.fates_final hσ'.conserved hfresh' hhistory hf hqueued

/-- The fates of `id` and the sessions created for it, by the result of the wait for it. -/
def Settles (σ : System ω) (id : RequestId) : Except RegistryError Session → Prop
  | .ok x => σ.fates id = [.bound x] ∧ σ.created.filter (·.requestId = id) = [x]
  | .error (.timeout _) =>
    σ.fates id = [.withdrawn true] ∧ σ.created.filter (·.requestId = id) = [] ∧
      ∀ x ∈ σ.registry.active, x.requestId ≠ id
  | .error .cancelled =>
    (σ.fates id = [.withdrawn false] ∨ σ.fates id = [.discarded .registryStopped]) ∧
      σ.created.filter (·.requestId = id) = [] ∧ ∀ x ∈ σ.registry.active, x.requestId ≠ id
  | .error _ => False

/-- A request that was not bound has no session. -/
theorem Conserved.unbound (hσ : σ.Conserved) {id : RequestId} {f : Fate} (hf : σ.fates id = [f])
    (hnone : f.session? = none) :
    σ.created.filter (·.requestId = id) = [] ∧ ∀ x ∈ σ.registry.active, x.requestId ≠ id := by
  have hcreated : σ.created.filter (·.requestId = id) = [] := by
    rw [filter_created, hf, List.filterMap_cons_none hnone, List.filterMap_nil]
  refine ⟨hcreated, fun x hx hrequest => ?_⟩
  obtain ⟨y, hy, _, hrequest'⟩ := hσ.origin x hx
  have hmem : y ∈ σ.created.filter (·.requestId = id) :=
    List.mem_filter.2 ⟨hy, decide_eq_true (hrequest'.trans hrequest)⟩
  rw [hcreated] at hmem
  exact absurd hmem List.not_mem_nil

/-- The result of a wait settles a request that no broken pass has lost. -/
theorem Conserved.settles (hσ : σ.Conserved) {id : RequestId} {f : Fate} (hf : σ.fates id = [f])
    (hkept : f ≠ .discarded .sweepBroken) {result : Except RegistryError Session}
    (h : Explains result f) : σ.Settles id result := by
  cases result with
  | ok x =>
    obtain rfl : f = .bound x := h
    refine ⟨hf, ?_⟩
    rw [filter_created, hf]
    rfl
  | error e =>
    cases e with
    | timeout t =>
      obtain rfl : f = .withdrawn true := h
      exact ⟨hf, hσ.unbound hf rfl⟩
    | cancelled =>
      rcases h with rfl | rfl | rfl
      · exact ⟨.inl hf, hσ.unbound hf rfl⟩
      · exact ⟨.inr hf, hσ.unbound hf rfl⟩
      · exact absurd rfl hkept
    | noMatchingProxy | stopped | unknownSession | alreadyRegistering => exact h.elim

/-- The executable look into the mailbox after a withdrawal finds a reply if the withdrawal found
nothing. -/
theorem Served.expire_isSome (hσ : σ.Served) (hfresh : σ.FreshRequests) {id : RequestId}
    (hheld : isHeld σ.mailboxes id = true) (timeout : Duration) :
    (expire σ.registry σ.mailboxes id timeout).1.isSome = true := by
  obtain ⟨m, hm, rfl, hmheld, hreply⟩ := hσ.told.exists_mailbox hfresh hheld
  obtain ⟨f, hf⟩ := hσ.conserved.exists_fate hfresh (hσ.told.mem_admitted hm)
  unfold expire
  split
  · rfl
  · rename_i r hnone
    have hqueued : f ≠ .queued := by
      rintro rfl
      have hqueued : .queued ∈ σ.fates m.request := by
        rw [hf]
        exact List.mem_singleton.2 rfl
      have hpos := queuedIn_pos_of_fates hqueued
      have hfound := (withdraw_found ..).2 hpos
      rw [hnone] at hfound
      cases hfound
    obtain ⟨result, hresult⟩ := (hσ.told.agrees m hm f hf).exists_outcome hmheld hqueued
    rw [hreply, hresult]
    rfl

/-- A wait returns once. -/
theorem returned_run {id : RequestId} {result : Except RegistryError Session}
    (h : σ.waits id = .returned result) (actions : List (Action ω)) :
    (σ.run s actions).waits id = .returned result := by
  induction actions generalizing σ with
  | nil => exact h
  | cons a actions ih =>
    refine ih ?_
    rcases waits_step (s := s) σ a id with hsame | hfurther
    · exact hsame.trans h
    · rw [h] at hfurther
      generalize (step s σ a).waits id = w at hfurther
      cases hfurther with
      -- a wait that has returned does not look into its mailbox
      | received _ hlooks => cases hlooks

/-- In a run in which every matcher answers, what a wait returns settles its request for good.  If
the request was bound before the wait could withdraw it, the wait returns the session and nothing
else.  The look into the mailbox after a withdrawal in vain finds a reply. -/
theorem wait_outcome (memory : ω) (before after : List (Action ω))
    (hσ : σ = (System.initial memory).run s before) (hτ : τ = σ.run s after)
    (hfresh : τ.FreshRequests)
    (hdecides : ∀ p ∈ (before ++ after).flatMap Action.added, Decides p) (id : RequestId) :
    (∀ result, σ.waits id = .returned result →
        τ.waits id = .returned result ∧ τ.Settles id result) ∧
      (∀ x, σ.fates id = [.bound x] →
        (∀ result, τ.waits id = .returned result → result = .ok x) ∧
        (isHeld τ.mailboxes id = true → (τ.waits id).isUnderway = true →
          (τ.run s ((τ.waits id).course id)).waits id = .returned (.ok x))) ∧
      (isHeld σ.mailboxes id = true →
        (σ.waits id = .receiving →
          ∃ result, (step s σ (.receive id)).waits id = .returned result) ∧
        ∀ timeout, (expire σ.registry σ.mailboxes id timeout).1.isSome = true) := by
  subst hτ
  have hstart := hfresh.of_run
  have hserved : σ.Served := by
    subst hσ
    exact served_run (.initial memory) before hstart
  have hlater := served_run (s := s) hserved after hfresh
  have hkept {f : Fate} (hf : (σ.run s after).fates id = [f]) : f ≠ .discarded .sweepBroken := by
    rw [hσ, ← run_append] at hf
    exact ne_lost_of_fates memory hdecides hf
  -- what a wait has returned explains the fate of its request, and that fate is final
  refine ⟨fun result hresult => ?_, fun x hbound => ?_, fun hheld => ⟨fun hreceiving => ?_, ?_⟩⟩
  · have hreturned := returned_run (s := s) hresult after
    obtain ⟨f, hf, hexplained⟩ := hlater.waited id (by rw [hreturned]; simp)
    rw [hreturned] at hexplained
    exact ⟨hreturned, hlater.conserved.settles hf (hkept hf) hexplained⟩
  · obtain ⟨events, hhistory⟩ := exists_history_run (s := s) σ after
    have hfate := hserved.conserved.fates_final hlater.conserved hfresh hhistory hbound (by simp)
    refine ⟨fun result hresult => ?_, fun hheld hunderway => ?_⟩
    · obtain ⟨f, hf, hexplained⟩ := hlater.waited id (by rw [hresult]; simp)
      rw [hresult] at hexplained
      obtain rfl : Fate.bound x = f := (List.cons.inj (hfate.symm.trans hf)).1
      exact Explains.eq_of_bound hexplained
    · obtain ⟨result, hresult, hexplains⟩ :=
        hlater.course (s := s) hfresh hheld hunderway hfate (by simp)
      rw [hresult, hexplains.eq_of_bound]
  · obtain ⟨f, hf, hexplained⟩ := hserved.waited id (by rw [hreceiving]; simp)
    rw [hreceiving] at hexplained
    obtain ⟨result, hresult, _⟩ := hserved.receive (s := s) hstart hheld
      (by rw [hreceiving]; rfl) hf hexplained
    exact ⟨result, hresult⟩
  · exact hserved.expire_isSome hstart hheld

/-- The session is bound after the time of the wait is over, before it can withdraw. -/
def lateRun : List (Action Unit) :=
  [.begin (.add (judgingProxy "node:4444" (.accepted, ·))) {}, .resume 0 true, .submit default,
    .wait ⟨⟨0⟩⟩ ⟨0⟩, .expire ⟨⟨0⟩⟩, .begin .sweep {}]

/-- The session of that run. -/
def lateSession : Session where
  key := ⟨⟨1⟩⟩
  requestId := ⟨⟨0⟩⟩
  requested := default
  slot := ⟨"node:4444", 0⟩
  offered := default

theorem wait_outcome_late :
    ∃ σ τ : System Unit, σ = (System.initial ()).run countingSetting lateRun ∧
      τ = σ.run countingSetting [.giveUp ⟨⟨0⟩⟩] ∧ τ.FreshRequests ∧
      (∀ p ∈ (lateRun ++ [Action.giveUp ⟨⟨0⟩⟩]).flatMap Action.added, Decides p) ∧
      σ.fates ⟨⟨0⟩⟩ = [.bound lateSession] ∧
      (τ.run countingSetting ((τ.waits ⟨⟨0⟩⟩).course ⟨⟨0⟩⟩)).waits ⟨⟨0⟩⟩ =
        .returned (.ok lateSession) := by
  refine ⟨_, _, rfl, rfl, ?_⟩
  have hfresh : (((System.initial ()).run countingSetting lateRun).run countingSetting
      [.giveUp ⟨⟨0⟩⟩]).FreshRequests := by
    unfold FreshRequests
    decide +kernel
  have hbound : ((System.initial ()).run countingSetting lateRun).fates ⟨⟨0⟩⟩ =
      [.bound lateSession] := by
    decide +kernel
  have hdecides : ∀ p ∈ (lateRun ++ [Action.giveUp ⟨⟨0⟩⟩]).flatMap Action.added, Decides p := by
    simp [lateRun, Action.added, Operation.added, Decides, judgingProxy]
  obtain ⟨-, hsession, -⟩ := wait_outcome () lateRun _ rfl rfl hfresh hdecides ⟨⟨0⟩⟩
  exact ⟨hfresh, hdecides, hbound,
    (hsession lateSession hbound).2 (by decide +kernel) (by decide +kernel)⟩

end System

end BrowserGrid.Registry
