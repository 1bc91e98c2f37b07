import BrowserGrid.Proofs.Exec.Ending

/-!
# The signal that ends a command

The driver can send the signal that ends a command once.  A request for the end may come at any
time, before the transport is connected too, and waits until the driver takes it; a handle that is
gone stands for such a request; and the first words on the error stream can take the place of one.

* `Accounted`: what ties the signal, the requests and the marks of the driver to the history.
* `signals_run`: in every run the signal is sent at most once, by a step that takes a request or
  hears the error stream, and the driver never waits while there is a reason to send it and it has
  not been sent.
-/

namespace BrowserGrid.Exec

namespace Driver

variable {d d' : Driver} {e : Event}

/-- Whoever takes a request or hears the error stream may send the signal, nobody else does. -/
theorem Turn.killed_cases (h : Turn d e d') :
    d'.killed = d.killed ∨
      (d.phase = .running ∧ d.killed = false ∧ d'.killed = true ∧ e = .closeRequest) ∨
      (d.phase = .running ∧ d'.killed = true ∧ d.options.closeOnStderr = true ∧
        d.complaint = none ∧ ∃ bytes, bytes ≠ [] ∧ e = .stderr bytes) := by
  cases h with
  | connected | refused => exact .inl rfl
  | @heard hphase bytes hbytes =>
    unfold hear
    dsimp only
    split
    · rename_i hends
      exact .inr (.inr ⟨hphase, rfl, hends.1, hends.2, bytes, hbytes, rfl⟩)
    · exact .inl rfl
  | asked hphase hkilled => exact .inr (.inl ⟨hphase, hkilled, rfl, rfl⟩)
  | exited _ hfinishes | past _ _ hfinishes => exact .inl hfinishes.alike.killed_eq
  | aside _ halike => exact .inl halike.killed_eq

/-- The signal is not taken back. -/
theorem Turn.killed_mono (h : Turn d e d') (hkilled : d.killed = true) : d'.killed = true := by
  obtain hsame | ⟨-, -, hsent, -⟩ | ⟨-, hsent, -⟩ := h.killed_cases
  · rwa [hsame]
  · exact hsent
  · exact hsent

/-- Whoever begins to complain sends the signal. -/
theorem Turn.killed_of_complaint (h : Turn d e d') (hbefore : d.complaint ≠ none → d.killed = true)
    (hcomplaint : d'.complaint ≠ none) : d'.killed = true := by
  cases h with
  | connected | refused => exact hbefore hcomplaint
  | heard =>
    unfold hear at hcomplaint ⊢
    dsimp only at hcomplaint ⊢
    split at hcomplaint
    · rw [if_pos (by assumption)]
    · rw [if_neg (by assumption)]
      exact hbefore hcomplaint
  | asked => rfl
  | exited _ hfinishes | past _ _ hfinishes =>
    rw [hfinishes.alike.killed_eq]
    exact hbefore (hfinishes.alike.complaint_eq ▸ hcomplaint)
  | aside _ halike =>
    rw [halike.killed_eq]
    exact hbefore (halike.complaint_eq ▸ hcomplaint)

end Driver

namespace System

open Driver

/-- The counters `signals` and `closeRequests` of `x` and the mark `killed` of its driver, compared
with the deeds `.close` and `.drop` in `x.history`. -/
structure Accounted (x : System) : Prop where
  /-- The driver marks the signal as sent when it is. -/
  signals_eq : x.signals = x.driver.killed.toNat
  /-- A request that was not taken has been made. -/
  close_of_request : 0 < x.closeRequests → .close ∈ x.history
  /-- A request that was made has not been taken, or the signal was sent. -/
  request_of_close : .close ∈ x.history → 0 < x.closeRequests ∨ x.driver.killed = true
  drop_iff : .drop ∈ x.history ↔ x.handleGone = true
  /-- Who complains has sent the signal. -/
  killed_of_complaint : x.driver.complaint ≠ none → x.driver.killed = true
  /-- There is nobody to send the signal to before the transport is connected. -/
  connected_of_killed : x.driver.killed = true → .connected ∈ x.learned

variable {x : System}

theorem accounted_start (options : ExecOptions) : Accounted (start options) where
  signals_eq := rfl
  close_of_request := nofun
  request_of_close := nofun
  drop_iff := iff_of_false List.not_mem_nil Bool.false_ne_true
  killed_of_complaint := fun h => absurd rfl h
  connected_of_killed := nofun

/-- A request for the end is there to be taken only if somebody made it. -/
theorem Accounted.asked_of_ready (h : Accounted x) (hready : x.ready .closeRequest = true) :
    .close ∈ x.history ∨ .drop ∈ x.history := by
  simp only [ready, Bool.and_eq_true, Bool.or_eq_true, decide_eq_true_eq] at hready
  exact hready.2.imp h.close_of_request h.drop_iff.2

theorem killed_of_taken (hready : x.ready .closeRequest = true) :
    (x.driver.on .closeRequest).killed = true := by
  simp only [ready, Bool.and_eq_true, decide_eq_true_eq, Bool.not_eq_true'] at hready
  rw [on_closeRequest hready.1.1 hready.1.2]

/-- Learning what there is to learn keeps it so. -/
theorem Accounted.learn (h : Accounted x) {e : Event} (hready : x.ready e = true)
    {options : ExecOptions} (hfollows : Follows options x.learned x.driver) :
    Accounted (x.step (.learn e)) := by
  have hturn : Turn x.driver e (x.driver.on e) := turn_of_ready hready
  rw [step_of_possible (show x.possible (.learn e) = true from hready)]
  have hlearned : ({ x.perform (.learn e) with
      history := x.history ++ [.learn e] } : System).learned = x.learned ++ [e] :=
    List.filterMap_append
  refine ⟨?_, fun hrequest => ?_, fun hclose => ?_, ?_,
    hturn.killed_of_complaint h.killed_of_complaint, fun hkilled => ?_⟩
  · show (if !x.driver.killed && (x.driver.on e).killed then x.signals + 1 else x.signals) =
      (x.driver.on e).killed.toNat
    rw [h.signals_eq]
    cases hkilled : x.driver.killed with
    | true =>
      rw [hturn.killed_mono hkilled]
      rfl
    | false => cases (x.driver.on e).killed <;> rfl
  · -- learning takes requests and makes none
    refine List.mem_append_left _ (h.close_of_request ?_)
    change 0 < (if e = .closeRequest then x.closeRequests - 1 else x.closeRequests) at hrequest
    split at hrequest <;> omega
  · show 0 < (if e = .closeRequest then x.closeRequests - 1 else x.closeRequests) ∨
      (x.driver.on e).killed = true
    split
    · rename_i he
      subst he
      exact .inr (killed_of_taken hready)
    · exact (h.request_of_close (by simpa using hclose)).imp_right hturn.killed_mono
  · show .drop ∈ x.history ++ [.learn e] ↔ x.handleGone = true
    rw [← h.drop_iff]
    simp
  · rw [hlearned]
    refine List.mem_append_left _ ?_
    obtain hsame | ⟨hphase, -⟩ | ⟨hphase, -⟩ := hturn.killed_cases
    · exact h.connected_of_killed (hsame ▸ hkilled)
    · exact (hfollows.course.of_running hphase).2.1
    · exact (hfollows.course.of_running hphase).2.1

/-- What nobody learns and is no request keeps it so. -/
theorem Accounted.aside {y : System} (h : Accounted x) {deed : Deed} (hclose : deed ≠ .close)
    (hdrop : deed ≠ .drop) (hlearned : y.learned = x.learned) (hdriver : y.driver = x.driver)
    (hrequests : y.closeRequests = x.closeRequests) (hgone : y.handleGone = x.handleGone)
    (hsignals : y.signals = x.signals) (hhistory : y.history = x.history ++ [deed]) :
    Accounted y where
  signals_eq := by rw [hsignals, hdriver, h.signals_eq]
  close_of_request hrequest :=
    hhistory ▸ List.mem_append_left _ (h.close_of_request (hrequests ▸ hrequest))
  request_of_close hmem := by
    rw [hrequests, hdriver]
    exact h.request_of_close (by simpa [hhistory, hclose.symm] using hmem)
  drop_iff := by
    rw [hgone, ← h.drop_iff, hhistory]
    simp [hdrop.symm]
  killed_of_complaint := hdriver ▸ h.killed_of_complaint
  connected_of_killed := by
    rw [hdriver, hlearned]
    exact h.connected_of_killed

theorem Accounted.step (h : Accounted x) {options : ExecOptions}
    (hfollows : Follows options x.learned x.driver) (deed : Deed) : Accounted (x.step deed) := by
  cases hpossible : x.possible deed with
  | false =>
    rw [step_of_not hpossible]
    exact h
  | true =>
    have hlearned : deed.event? = none → (x.step deed).learned = x.learned := by
      intro hevent
      obtain ⟨-, hsame⟩ | ⟨e, rfl, -⟩ := x.driver_step deed
      · exact hsame
      · cases hevent
    rw [step_of_possible hpossible] at hlearned ⊢
    cases deed with
    | learn e => exact step_of_possible hpossible ▸ h.learn hpossible hfollows
    | close =>
      exact {
        signals_eq := h.signals_eq
        close_of_request := fun _ => by simp
        request_of_close := fun _ => .inl (Nat.succ_pos _)
        drop_iff := by simpa [perform] using h.drop_iff
        killed_of_complaint := h.killed_of_complaint
        connected_of_killed := fun hkilled => hlearned rfl ▸ h.connected_of_killed hkilled }
    | drop =>
      exact {
        signals_eq := h.signals_eq
        close_of_request := fun hrequest => List.mem_append_left _ (h.close_of_request hrequest)
        request_of_close := fun hclose => h.request_of_close (by simpa using hclose)
        drop_iff := by simp [perform]
        killed_of_complaint := h.killed_of_complaint
        connected_of_killed := fun hkilled => hlearned rfl ▸ h.connected_of_killed hkilled }
    | offer read => exact h.aside (by simp) (by simp) (hlearned rfl) rfl rfl rfl rfl rfl
    | report exit => exact h.aside (by simp) (by simp) (hlearned rfl) rfl rfl rfl rfl rfl

theorem accounted_run (options : ExecOptions) (deeds : List Deed) :
    Accounted ((start options).run deeds) :=
  (run_induction (P := fun x => Accounted x ∧ Follows options x.learned x.driver)
    (fun x deed h => ⟨h.1.step h.2 deed, follows_step x deed h.2⟩)
    ⟨accounted_start options, follows_start options⟩ deeds).1

/-- Sending the signal takes a request for the end, or words on an error stream that ends the
command. -/
theorem Accounted.reason_of_signal (h : Accounted x) {deed : Deed}
    (hsent : (x.step deed).signals ≠ x.signals) :
    (deed = .learn .closeRequest ∧ (.close ∈ x.history ∨ .drop ∈ x.history)) ∨
      (x.driver.options.closeOnStderr = true ∧
        ∃ bytes, bytes ≠ [] ∧ deed = .learn (.stderr bytes)) := by
  cases hpossible : x.possible deed with
  | false =>
    rw [step_of_not hpossible] at hsent
    exact absurd rfl hsent
  | true =>
    rw [step_of_possible hpossible] at hsent
    cases deed with
    | close | drop | offer | report => exact absurd rfl hsent
    | learn e =>
      have hready : x.ready e = true := hpossible
      obtain ⟨hunsent, hkilled⟩ : x.driver.killed = false ∧ (x.driver.on e).killed = true := by
        by_contra hnot
        refine hsent (if_neg fun hboth => hnot ?_)
        simpa using hboth
      obtain hsame | ⟨-, -, -, rfl⟩ | ⟨-, -, hcloses, -, bytes, hbytes, rfl⟩ :=
        (turn_of_ready hready).killed_cases
      · rw [hsame, hunsent] at hkilled
        cases hkilled
      · exact .inl ⟨rfl, h.asked_of_ready hready⟩
      · exact .inr ⟨hcloses, bytes, hbytes, rfl⟩

/-- While the command runs, words on an error stream that ends it have sent the signal. -/
theorem Accounted.killed_of_words (h : Accounted x) {options : ExecOptions}
    (hfollows : Follows options x.learned x.driver) (hphase : x.driver.phase = .running)
    (hcloses : options.closeOnStderr = true) {bytes : List UInt8}
    (hwords : .stderr bytes ∈ x.learned) : x.driver.killed = true := by
  have hunseen := (hfollows.course.of_running hphase).2.2.2
  refine h.killed_of_complaint ?_
  rw [hfollows.complaint_eq, if_pos hcloses, firstWords?, beforeExit_of_unseen hunseen]
  intro hnone
  have := List.findSome?_eq_none_iff.1 (Option.map_eq_none_iff.1 hnone) _ hwords
  cases this

/-- Whoever waits has taken all requests for the end, if the signal has not been sent. -/
theorem Waits.unasked (h : x.Waits) (hunsent : x.driver.killed = false) :
    x.closeRequests = 0 ∧ x.handleGone = false := by
  obtain ⟨hphase, hnothing⟩ := h
  have hready : x.ready .closeRequest = false :=
    Bool.eq_false_iff.2 fun hready => Bool.false_ne_true (hnothing .closeRequest hready)
  simpa [ready, hphase, hunsent] using hready

/-- A driver that waits has sent the signal if there is a reason to. -/
theorem Accounted.killed_of_waits (h : Accounted x) {options : ExecOptions}
    (hfollows : Follows options x.learned x.driver) (hwaits : x.Waits)
    (hreason : .close ∈ x.history ∨ .drop ∈ x.history ∨
      (options.closeOnStderr = true ∧ ∃ bytes, .stderr bytes ∈ x.learned)) :
    x.driver.killed = true := by
  by_contra hkilled
  have hunsent : x.driver.killed = false := Bool.eq_false_iff.2 hkilled
  obtain ⟨hnone, hheld⟩ := hwaits.unasked hunsent
  obtain hclose | hdrop | ⟨hcloses, bytes, hwords⟩ := hreason
  · obtain hrequest | hsent := h.request_of_close hclose
    · omega
    · exact hkilled hsent
  · rw [h.drop_iff.1 hdrop] at hheld
    cases hheld
  · exact hkilled (h.killed_of_words hfollows hwaits.1 hcloses hwords)

/-- A driver whose transport refused has nobody to send the signal to. -/
theorem Accounted.unkilled_of_refused (h : Accounted x) {options : ExecOptions}
    (hfollows : Follows options x.learned x.driver) {error : ClusterError}
    (hrefused : .refused error ∈ x.learned) : x.driver.killed = false := by
  refine Bool.eq_false_iff.2 fun hkilled => ?_
  have hconnected := h.connected_of_killed hkilled
  cases hfollows.course with
  | connecting _ _ hnot | refused _ _ hnot => exact hnot hconnected
  | running _ _ _ hnot | past _ _ _ hnot | ended _ _ _ hnot => exact hnot error hrefused

/-- In every run the signal is sent at most once; only taking a request for the end or hearing the
error stream sends it; the driver never waits unless it has sent it where there was a reason to; and
a driver whose transport refused never sends it. -/
theorem signals_run (options : ExecOptions) (deeds : List Deed) :
    let x := (start options).run deeds
    x.signals ≤ 1 ∧
      (∀ deed, (x.step deed).signals ≠ x.signals →
        (deed = .learn .closeRequest ∧ (.close ∈ x.history ∨ .drop ∈ x.history)) ∨
          (options.closeOnStderr = true ∧
            ∃ bytes, bytes ≠ [] ∧ deed = .learn (.stderr bytes))) ∧
      (x.Waits →
        .close ∈ x.history ∨ .drop ∈ x.history ∨
          (options.closeOnStderr = true ∧ ∃ bytes, .stderr bytes ∈ x.learned) →
        x.signals = 1) ∧
      ((∃ error, .refused error ∈ x.learned) → x.signals = 0) := by
  intro x
  have h : Accounted x := accounted_run options deeds
  have hfollows : Follows options x.learned x.driver := follows_run options deeds
  refine ⟨?_, fun deed hsent => ?_, fun hwaits hreason => ?_, fun ⟨error, hrefused⟩ => ?_⟩
  · rw [h.signals_eq]
    exact x.driver.killed.toNat_le
  · exact hfollows.options_eq ▸ h.reason_of_signal hsent
  · rw [h.signals_eq, h.killed_of_waits hfollows hwaits hreason]
    rfl
  · rw [h.signals_eq, h.unkilled_of_refused hfollows hrefused]
    rfl

/-- The handle is gone before the transport is connected. -/
def droppedRun : List Deed :=
  [.drop, .learn .closeRequest, .learn .connected, .learn .closeRequest, .learn .closeRequest]

/-- The driver that waits after that run has ended the command, once. -/
theorem signals_run_dropped :
    ((start {}).run droppedRun).Waits ∧ .drop ∈ ((start {}).run droppedRun).history ∧
      ((start {}).run droppedRun).signals = 1 := by
  have hwaits : ((start {}).run droppedRun).Waits := by
    refine ⟨by decide, fun e he => ?_⟩
    -- neither stream has anything to be read, and the exit has not been reported
    cases e with
    | stdout | stdoutEnd => rfl
    | connected | refused | stderr | stderrEnd | stderrError | closeRequest | exited | graceOver =>
      cases he
  have hdrop : .drop ∈ ((start {}).run droppedRun).history := by decide
  obtain ⟨-, -, hsent, -⟩ := signals_run {} droppedRun
  exact ⟨hwaits, hdrop, hsent hwaits (.inr (.inl hdrop))⟩

end System

end BrowserGrid.Exec
