import BrowserGrid.Proofs.Exec.Ending

/-!
# What is collected of the output of a command

The driver collects what it reads from the error stream while the command runs, and somebody beside
it collects the output stream, if that is wanted.  The rest of the error stream is read once the
command has exited, and it is collected as a whole, when the stream has ended.

* `collected_run`: in every run the collected output is an interleaving of what was read from the
  output stream and of what was read from the error stream before the exit, followed by what was
  read from it after the exit if the end of the stream was seen.  So nothing that was read is
  missing, unless something was read after the exit and the end was not seen.
-/

namespace BrowserGrid.Exec

/-! ### Interleavings -/

/-- A list is made of two others, each in its own order. -/
inductive Interleaves {α : Type} : List α → List α → List α → Prop where
  | nil : Interleaves [] [] []
  | left {as bs cs : List α} (a : α) (h : Interleaves as bs cs) : Interleaves (a :: as) bs (a :: cs)
  | right {as bs cs : List α} (b : α) (h : Interleaves as bs cs) :
    Interleaves as (b :: bs) (b :: cs)

namespace Interleaves

variable {α : Type} {as bs cs : List α}

theorem append_left (h : Interleaves as bs cs) (new : List α) :
    Interleaves (as ++ new) bs (cs ++ new) := by
  induction h with
  | nil =>
    induction new with
    | nil => exact .nil
    | cons a new ih => exact .left a ih
  | left a _ ih => exact .left a ih
  | right b _ ih => exact .right b ih

theorem append_right (h : Interleaves as bs cs) (new : List α) :
    Interleaves as (bs ++ new) (cs ++ new) := by
  induction h with
  | nil =>
    induction new with
    | nil => exact .nil
    | cons b new ih => exact .right b ih
  | left a _ ih => exact .left a ih
  | right b _ ih => exact .right b ih

theorem length_eq (h : Interleaves as bs cs) : cs.length = as.length + bs.length := by
  induction h with
  | nil => rfl
  | left | right => simp only [List.length_cons]; omega

end Interleaves

/-! ### What was read -/

namespace Event

/-- The bytes that were read from the output stream. -/
def output? : Event → Option (List UInt8)
  | stdout bytes => some bytes
  | _ => none

/-- Whether it adds nothing to what was read from the error stream, before the exit or after it. -/
def isMute : Event → Bool
  | stderr _ | stderrEnd | exited _ => false
  | _ => true

end Event

/-- What was learned from the exit on. -/
def afterExit (learned : List Event) : List Event := learned.dropWhile (·.exit?.isNone)

/-- What was read from the error stream. -/
def stderrRead (learned : List Event) : List UInt8 := (learned.filterMap Event.words?).flatten

/-- What was read from the output stream. -/
def stdoutRead (learned : List Event) : List UInt8 := (learned.filterMap Event.output?).flatten

/-- What was read from the error stream once the exit was seen. -/
def drained (learned : List Event) : List UInt8 := stderrRead (afterExit learned)

/-- Whether the end of the error stream was seen after the exit. -/
def DrainEnded (learned : List Event) : Prop := .stderrEnd ∈ afterExit learned

instance (learned : List Event) : Decidable (DrainEnded learned) :=
  inferInstanceAs (Decidable (.stderrEnd ∈ afterExit learned))

/-- What is kept of the error stream. -/
def stderrKept (learned : List Event) : List UInt8 :=
  stderrRead (beforeExit learned) ++ if DrainEnded learned then drained learned else []

variable {learned : List Event}

theorem stderrRead_append (learned learned' : List Event) :
    stderrRead (learned ++ learned') = stderrRead learned ++ stderrRead learned' := by
  rw [stderrRead, List.filterMap_append, List.flatten_append, stderrRead, stderrRead]

theorem stdoutRead_append (learned learned' : List Event) :
    stdoutRead (learned ++ learned') = stdoutRead learned ++ stdoutRead learned' := by
  rw [stdoutRead, List.filterMap_append, List.flatten_append, stdoutRead, stdoutRead]

theorem stdoutRead_append_of_none {e : Event} (houtput : e.output? = none) (learned : List Event) :
    stdoutRead (learned ++ [e]) = stdoutRead learned := by
  rw [stdoutRead_append, stdoutRead, stdoutRead, List.filterMap_cons, houtput]
  exact List.append_nil _

/-- What was read from the error stream was read before the exit or after it. -/
theorem stderrRead_eq (learned : List Event) :
    stderrRead learned = stderrRead (beforeExit learned) ++ drained learned := by
  rw [drained, ← stderrRead_append, beforeExit, afterExit, List.takeWhile_append_dropWhile]

theorem afterExit_of_unseen (h : seenExit? learned = none) : afterExit learned = [] := by
  refine List.dropWhile_eq_nil_iff.2 fun e he => ?_
  rw [List.findSome?_eq_none_iff.1 h e he]
  rfl

theorem afterExit_append_exited (h : seenExit? learned = none) (exit : ExecExit) :
    afterExit (learned ++ [.exited exit]) = [.exited exit] := by
  rw [afterExit, List.dropWhile_append, ← afterExit, afterExit_of_unseen h]
  rfl

theorem afterExit_append_of_seen {exit : ExecExit} (h : seenExit? learned = some exit) (e : Event) :
    afterExit (learned ++ [e]) = afterExit learned ++ [e] := by
  have hnonempty : afterExit learned ≠ [] := by
    intro hempty
    have hnone : seenExit? learned = none := by
      refine List.findSome?_eq_none_iff.2 fun e he => ?_
      simpa using List.dropWhile_eq_nil_iff.1 hempty e he
    rw [hnone] at h
    cases h
  rw [afterExit, List.dropWhile_append, ← afterExit, if_neg (by simpa using hnonempty)]

theorem drained_append_of_seen {exit : ExecExit} (h : seenExit? learned = some exit) (e : Event) :
    drained (learned ++ [e]) = drained learned ++ stderrRead [e] := by
  rw [drained, afterExit_append_of_seen h, stderrRead_append, drained]

theorem drainEnded_append_of_seen {exit : ExecExit} (h : seenExit? learned = some exit)
    (e : Event) : DrainEnded (learned ++ [e]) ↔ DrainEnded learned ∨ .stderrEnd = e := by
  rw [DrainEnded, afterExit_append_of_seen h, List.mem_append, List.mem_singleton, DrainEnded]

/-- Before the exit was seen, nothing was read after it. -/
theorem drained_of_unseen (h : seenExit? learned = none) :
    drained learned = [] ∧ ¬DrainEnded learned := by
  rw [drained, DrainEnded, afterExit_of_unseen h]
  exact ⟨rfl, List.not_mem_nil⟩

theorem stderrKept_of_unseen (h : seenExit? learned = none) :
    stderrKept learned = stderrRead learned := by
  rw [stderrKept, if_neg (drained_of_unseen h).2, beforeExit_of_unseen h, List.append_nil]

theorem stderrRead_words (bytes : List UInt8) : stderrRead [.stderr bytes] = bytes := by
  simp [stderrRead, Event.words?]

/-- Up to the exit all that is read from the error stream is kept. -/
theorem append_of_unseen (h : seenExit? learned = none) (e : Event) :
    stderrKept (learned ++ [e]) = stderrKept learned ++ stderrRead [e] ∧
      drained (learned ++ [e]) = [] ∧ ¬DrainEnded (learned ++ [e]) := by
  cases hexit : e.exit? with
  | none =>
    have hunseen : seenExit? (learned ++ [e]) = none := by
      rw [seenExit?_append, h, hexit, Option.or_none]
    refine ⟨?_, drained_of_unseen hunseen⟩
    rw [stderrKept_of_unseen h, stderrKept_of_unseen hunseen, stderrRead_append]
  | some exit =>
    obtain rfl : e = .exited exit := by
      cases e <;> cases hexit
      rfl
    have hafter : afterExit (learned ++ [.exited exit]) = [.exited exit] :=
      afterExit_append_exited h exit
    have hnot : ¬DrainEnded (learned ++ [.exited exit]) := by
      rw [DrainEnded, hafter]
      simp
    have hbefore : beforeExit (learned ++ [.exited exit]) = learned := by
      rw [beforeExit_append_of_unseen h]
      exact if_neg (by simp [Event.exit?])
    refine ⟨?_, by rw [drained, hafter]; rfl, hnot⟩
    rw [stderrKept_of_unseen h, stderrKept, if_neg hnot, hbefore]
    rfl

/-- What adds nothing changes nothing of what was read and of what is kept. -/
theorem mute_append {e : Event} (hmute : e.isMute = true) (learned : List Event) :
    stderrKept (learned ++ [e]) = stderrKept learned ∧
      drained (learned ++ [e]) = drained learned ∧
      (DrainEnded (learned ++ [e]) ↔ DrainEnded learned) := by
  have hwords : stderrRead [e] = [] := by cases e <;> first | rfl | cases hmute
  have hend : .stderrEnd ≠ e := by rintro rfl; cases hmute
  cases hseen : seenExit? learned with
  | none =>
    obtain ⟨hkept, hdrained', hended'⟩ := append_of_unseen hseen e
    obtain ⟨hdrained, hended⟩ := drained_of_unseen hseen
    rw [hkept, hwords, List.append_nil, hdrained, hdrained']
    exact ⟨rfl, rfl, iff_of_false hended' hended⟩
  | some exit =>
    have hdrained : drained (learned ++ [e]) = drained learned := by
      rw [drained_append_of_seen hseen, hwords, List.append_nil]
    have hended : DrainEnded (learned ++ [e]) ↔ DrainEnded learned := by
      rw [drainEnded_append_of_seen hseen, or_iff_left hend]
    refine ⟨?_, hdrained, hended⟩
    rw [stderrKept, beforeExit_append_of_seen hseen, hdrained, stderrKept]
    simp only [hended]

/-! ### What is collected -/

namespace Driver

/-- In the step from `d` to `d'`, `new` is appended to the collected output, the options stay, and
`collecting` is set only if standard output is captured. -/
structure Gains (d : Driver) (new : List UInt8) (d' : Driver) : Prop where
  output_eq : d'.output = d.output ++ new
  options_eq : d'.options = d.options
  captures : d'.collecting = true → d.collecting = true ∨ d.options.captureStdout = true

variable {d d' : Driver} {new : List UInt8}

theorem gains_nil (houtput : d'.output = d.output) (hoptions : d'.options = d.options)
    (hcollecting : d'.collecting = true → d.collecting = true) : Gains d [] d' :=
  ⟨by rw [houtput, List.append_nil], hoptions, fun h => .inl (hcollecting h)⟩

theorem Gains.conclude (h : Gains d new d') (exit : ExecExit) : Gains d new (d'.conclude exit) :=
  ⟨h.output_eq, h.options_eq, h.captures⟩

theorem Gains.afterStderr (h : Gains d new d') (exit : ExecExit) :
    Gains d new (d'.afterStderr exit) := by
  unfold Driver.afterStderr
  split
  · exact ⟨h.output_eq, h.options_eq, h.captures⟩
  · exact h.conclude exit

theorem afterStderr_not_draining (d : Driver) (exit exit' : ExecExit) (rest : List UInt8) :
    (d.afterStderr exit).phase ≠ .draining exit' rest := by
  unfold Driver.afterStderr
  split <;> exact nofun

/-- The step from `d` to `d'` appends nothing to the output (`gains`), and `d'` drains the error
stream only if `d` did, with the same rest. -/
structure Rests (d d' : Driver) : Prop where
  gains : Gains d [] d'
  draining : ∀ exit rest, d'.phase = .draining exit rest → d.phase = .draining exit rest

theorem Gains.rests (h : Gains d [] d') (hphase : d'.phase = d.phase) : Rests d d' :=
  ⟨h, fun _ _ hdraining => hphase ▸ hdraining⟩

theorem Gains.rests_afterStderr (h : Gains d [] d') (exit : ExecExit) :
    Rests d (d'.afterStderr exit) :=
  ⟨h.afterStderr exit, fun exit' rest hdraining =>
    absurd hdraining (d'.afterStderr_not_draining exit exit' rest)⟩

theorem Gains.rests_conclude (h : Gains d [] d') (exit : ExecExit) : Rests d (d'.conclude exit) :=
  ⟨h.conclude exit, nofun⟩

theorem Rests.refl (d : Driver) : Rests d d := (gains_nil rfl rfl id).rests rfl

theorem rests_connected (d : Driver) : Rests d (d.on .connected) := by
  simp only [on]
  split
  · exact ⟨⟨(List.append_nil _).symm, rfl, .inr⟩, fun _ _ h => by cases h⟩
  · exact .refl d

theorem rests_refused (d : Driver) (error : ClusterError) : Rests d (d.on (.refused error)) := by
  simp only [on]
  split
  · exact ⟨gains_nil rfl rfl id, fun _ _ h => by cases h⟩
  · exact .refl d

theorem rests_stderrError (d : Driver) : Rests d (d.on .stderrError) := by
  have hgains : Gains d [] { d with stderrOpen := false } := gains_nil rfl rfl id
  simp only [on]
  split
  · exact hgains.rests rfl
  · exact hgains.rests_afterStderr _
  · exact .refl d

theorem rests_stdoutEnd (d : Driver) : Rests d (d.on .stdoutEnd) := by
  have hgains : Gains d [] { d with collecting := false } := gains_nil rfl rfl fun h => by cases h
  simp only [on]
  split
  · exact hgains.rests_conclude _
  · exact hgains.rests rfl

theorem rests_closeRequest (d : Driver) : Rests d (d.on .closeRequest) := by
  have hgains : Gains d [] { d with closedByCaller := true, killed := true } :=
    gains_nil rfl rfl id
  simp only [on]
  split
  · split
    · exact .refl d
    · exact hgains.rests rfl
  · exact .refl d

theorem rests_graceOver (d : Driver) : Rests d (d.on .graceOver) := by
  have hgains : Gains d [] d := gains_nil rfl rfl id
  simp only [on]
  split
  · exact hgains.rests_afterStderr _
  · exact hgains.rests_conclude _
  · exact .refl d

/-- What adds nothing to what was read has nothing collected, and does not begin the drain. -/
theorem rests_of_mute {e : Event} (hmute : e.isMute = true) (houtput : e.output? = none) :
    Rests d (d.on e) := by
  cases e with
  | connected => exact rests_connected d
  | refused error => exact rests_refused d error
  | stderrError => exact rests_stderrError d
  | stdoutEnd => exact rests_stdoutEnd d
  | closeRequest => exact rests_closeRequest d
  | graceOver => exact rests_graceOver d
  | stdout => cases houtput
  | stderr | stderrEnd | exited => cases hmute

/-- The output of `d` interleaves `stderrKept learned` and `stdoutRead learned`, and the latter is
empty unless standard output is captured.  While `d` drains, its rest is `drained learned`. -/
structure Collected (learned : List Event) (d : Driver) : Prop where
  output : Interleaves (stderrKept learned) (stdoutRead learned) d.output
  captures : d.collecting = true → d.options.captureStdout = true
  uncaptured : d.options.captureStdout = false → stdoutRead learned = []
  /-- What is drained is put aside until the end. -/
  draining : ∀ exit rest, d.phase = .draining exit rest →
    rest = drained learned ∧ ¬DrainEnded learned

theorem collected_start (options : ExecOptions) : Collected [] (start options) where
  output := .nil
  captures := nofun
  uncaptured _ := rfl
  draining := nofun

theorem Collected.gains {learned' : List Event} (h : Collected learned d) (hgains : Gains d new d')
    (hkept : stderrKept learned' = stderrKept learned ++ new)
    (hstdout : stdoutRead learned' = stdoutRead learned)
    (hdraining : ∀ exit rest, d'.phase = .draining exit rest →
      rest = Exec.drained learned' ∧ ¬DrainEnded learned') : Collected learned' d' where
  output := by
    rw [hkept, hstdout, hgains.output_eq]
    exact h.output.append_left new
  captures hcollecting := by
    rw [hgains.options_eq]
    exact (hgains.captures hcollecting).elim h.captures id
  uncaptured := by
    rw [hgains.options_eq, hstdout]
    exact h.uncaptured
  draining := hdraining

theorem Collected.mute {e : Event} (h : Collected learned d) (hmute : e.isMute = true)
    (houtput : e.output? = none) : Collected (learned ++ [e]) (d.on e) := by
  obtain ⟨hkept, hdrained, hended⟩ := mute_append hmute learned
  obtain ⟨hgains, hphase⟩ := rests_of_mute (d := d) hmute houtput
  refine h.gains hgains (by rw [hkept, List.append_nil])
    (stdoutRead_append_of_none houtput learned) fun exit rest hdraining => ?_
  rw [hdrained, hended]
  exact h.draining exit rest (hphase exit rest hdraining)

/-- The output stream is collected as it is read. -/
theorem Collected.stdout (h : Collected learned d) (hcollecting : d.collecting = true)
    (bytes : List UInt8) : Collected (learned ++ [.stdout bytes]) (d.collect bytes) := by
  obtain ⟨hkept, hdrained, hended⟩ := mute_append (e := .stdout bytes) rfl learned
  have hstdout : stdoutRead (learned ++ [.stdout bytes]) = stdoutRead learned ++ bytes := by
    rw [stdoutRead_append]
    simp [stdoutRead, Event.output?]
  exact {
    output := by
      rw [hkept, hstdout]
      exact h.output.append_right bytes
    captures := h.captures
    uncaptured := fun hnot => by
      have hcaptures : (d.collect bytes).options.captureStdout = true := h.captures hcollecting
      rw [hcaptures] at hnot
      cases hnot
    draining := fun exit rest hphase => by
      rw [hdrained, hended]
      exact h.draining exit rest hphase }

theorem gains_hear (d : Driver) (bytes : List UInt8) :
    Gains d bytes (d.hear bytes) ∧ (d.hear bytes).phase = d.phase := by
  unfold hear
  dsimp only
  split
  · exact ⟨⟨rfl, rfl, .inl⟩, rfl⟩
  · exact ⟨⟨rfl, rfl, .inl⟩, rfl⟩

section Running

variable (h : Collected learned d) (hphase : d.phase = .running)
  (hunseen : seenExit? learned = none)
include h hphase hunseen

/-- While the command runs, what is read from the error stream is collected as it is read. -/
theorem Collected.heard (bytes : List UInt8) :
    Collected (learned ++ [.stderr bytes]) (d.hear bytes) := by
  obtain ⟨hkept, -⟩ := append_of_unseen hunseen (.stderr bytes)
  obtain ⟨hgains, hsame⟩ := gains_hear d bytes
  rw [stderrRead_words] at hkept
  refine h.gains hgains hkept (stdoutRead_append_of_none rfl learned)
    fun exit rest hdraining => ?_
  rw [hsame, hphase] at hdraining
  cases hdraining

theorem Collected.silenced : Collected (learned ++ [.stderrEnd]) { d with stderrOpen := false } := by
  obtain ⟨hkept, -⟩ := append_of_unseen hunseen .stderrEnd
  refine h.gains (gains_nil rfl rfl id) hkept (stdoutRead_append_of_none rfl learned)
    fun exit rest hdraining => ?_
  rw [show ({ d with stderrOpen := false } : Driver).phase = .running from hphase] at hdraining
  cases hdraining

/-- When the exit is seen, nothing was read after it yet. -/
theorem Collected.exited (exit : ExecExit) :
    Collected (learned ++ [.exited exit]) (d.on (.exited exit)) := by
  obtain ⟨hkept, hdrained, hnot⟩ := append_of_unseen hunseen (.exited exit)
  have hstdout := stdoutRead_append_of_none (e := .exited exit) rfl learned
  simp only [on, hphase]
  split
  · refine h.gains (gains_nil rfl rfl id) hkept hstdout fun exit' rest hdraining => ?_
    cases hdraining
    exact ⟨hdrained.symm, hnot⟩
  · exact h.gains ((gains_nil rfl rfl id).afterStderr exit) hkept hstdout
      fun exit' rest hdraining => absurd hdraining (d.afterStderr_not_draining exit exit' rest)

end Running

section Draining

variable (h : Collected learned d) {exit : ExecExit} {rest : List UInt8}
  (hphase : d.phase = .draining exit rest) (hseen : seenExit? learned = some exit)
include h hphase hseen

/-- After the exit what is read from the error stream is put aside. -/
theorem Collected.aside (bytes : List UInt8) :
    Collected (learned ++ [.stderr bytes]) { d with phase := .draining exit (rest ++ bytes) } := by
  obtain ⟨hrest, hnot⟩ := h.draining exit rest hphase
  have hnot' : ¬DrainEnded (learned ++ [.stderr bytes]) := by
    rw [drainEnded_append_of_seen hseen]
    simpa using hnot
  refine h.gains (gains_nil rfl rfl id) ?_ (stdoutRead_append_of_none rfl learned)
    fun exit' rest' hdraining => ?_
  · rw [stderrKept, stderrKept, if_neg hnot, if_neg hnot', beforeExit_append_of_seen hseen,
      List.append_nil, List.append_nil]
  · cases hdraining
    refine ⟨?_, hnot'⟩
    rw [drained_append_of_seen hseen, hrest, stderrRead_words]

/-- At the end of the error stream all that was put aside is collected. -/
theorem Collected.drained : Collected (learned ++ [.stderrEnd])
    (({ d with stderrOpen := false }.collect rest).afterStderr exit) := by
  obtain ⟨hrest, hnot⟩ := h.draining exit rest hphase
  have hended : DrainEnded (learned ++ [.stderrEnd]) :=
    (drainEnded_append_of_seen hseen _).2 (.inr rfl)
  have hgains : Gains d rest ({ d with stderrOpen := false }.collect rest) := ⟨rfl, rfl, .inl⟩
  refine h.gains (hgains.afterStderr exit) ?_ (stdoutRead_append_of_none rfl learned)
    fun exit' rest' hdraining => absurd hdraining (afterStderr_not_draining _ exit exit' rest')
  rw [stderrKept, stderrKept, if_neg hnot, if_pos hended, beforeExit_append_of_seen hseen,
    drained_append_of_seen hseen, hrest]
  simp [stderrRead, Event.words?]

end Draining

theorem phase_of_listens (h : d.listens = true) :
    d.phase = .running ∨ ∃ exit rest, d.phase = .draining exit rest := by
  cases hphase : d.phase with
  | running => exact .inl rfl
  | draining exit rest => exact .inr ⟨exit, rest, rfl⟩
  | connecting | collecting | ended => simp [listens, hphase] at h

end Driver

namespace System

open Driver

/-- Whoever learns what there is to learn has collected it. -/
theorem collected_learn {x : System} {options : ExecOptions} {e : Event}
    (h : Collected x.learned x.driver) (hfollows : Follows options x.learned x.driver)
    (hready : x.ready e = true) : Collected (x.learned ++ [e]) (x.driver.on e) := by
  cases e with
  | connected | refused | stderrError | stdoutEnd | closeRequest | graceOver => exact h.mute rfl rfl
  | stdout bytes =>
    have hcollecting : x.driver.collecting = true := hready
    simp only [on, if_pos hcollecting]
    exact h.stdout hcollecting bytes
  | exited exit =>
    have hphase : x.driver.phase = .running := by simpa using (Bool.and_eq_true_iff.1 hready).1
    exact h.exited hphase (hfollows.course.of_running hphase).2.2.2 exit
  | stderr bytes =>
    obtain hphase | ⟨exit, rest, hphase⟩ := phase_of_listens (Bool.and_eq_true_iff.1 hready).1
    · simp only [on, hphase]
      exact h.heard hphase (hfollows.course.of_running hphase).2.2.2 bytes
    · simp only [on, hphase]
      exact h.aside hphase (hfollows.course.of_past (by rw [hphase]; rfl)).2.2.2 bytes
  | stderrEnd =>
    obtain hphase | ⟨exit, rest, hphase⟩ := phase_of_listens (Bool.and_eq_true_iff.1 hready).1
    · have hsilenced := h.silenced hphase (hfollows.course.of_running hphase).2.2.2
      simpa only [on, hphase] using hsilenced
    · simp only [on, hphase]
      exact h.drained hphase (hfollows.course.of_past (by rw [hphase]; rfl)).2.2.2

theorem collected_step {options : ExecOptions} (x : System) (deed : Deed)
    (h : Collected x.learned x.driver) (hfollows : Follows options x.learned x.driver) :
    Collected (x.step deed).learned (x.step deed).driver := by
  obtain ⟨hdriver, hlearned⟩ | ⟨e, -, hready, hdriver, hlearned⟩ := x.driver_step deed
  · rwa [hdriver, hlearned]
  · rw [hdriver, hlearned]
    exact collected_learn h hfollows hready

/-- In every run the collected output is an interleaving of what is kept of the error stream and of
what was read from the output stream, of which nothing is read unless it is to be collected.  All
that was read from the error stream is in it exactly if nothing was read after the exit or the end
of the stream was seen. -/
theorem collected_run (options : ExecOptions) (deeds : List Deed) :
    let x := (start options).run deeds
    Interleaves (stderrKept x.learned) (stdoutRead x.learned) x.driver.output ∧
      (options.captureStdout = false → stdoutRead x.learned = []) ∧
      (Interleaves (stderrRead x.learned) (stdoutRead x.learned) x.driver.output ↔
        drained x.learned = [] ∨ DrainEnded x.learned) := by
  intro x
  obtain ⟨hcollected, hfollows⟩ : Collected x.learned x.driver ∧
      Follows options x.learned x.driver :=
    run_induction (x := start options)
      (P := fun x => Collected x.learned x.driver ∧ Follows options x.learned x.driver)
      (fun x deed h => ⟨collected_step x deed h.1 h.2, follows_step x deed h.2⟩)
      ⟨collected_start options, follows_start options⟩ deeds
  have hkept := hcollected.output
  refine ⟨hkept, fun huncaptured => ?_, fun hall => ?_, fun hseen => ?_⟩
  · exact hcollected.uncaptured (by rw [hfollows.options_eq, huncaptured])
  · -- both interleavings have the length of the output, so that nothing was left out
    have hlength := hkept.length_eq.symm.trans hall.length_eq
    rw [stderrRead_eq, stderrKept, List.length_append, List.length_append] at hlength
    by_cases hended : DrainEnded x.learned
    · exact .inr hended
    · rw [if_neg hended, List.length_nil] at hlength
      exact .inl (List.eq_nil_of_length_eq_zero (by omega))
  · have hequal : stderrKept x.learned = stderrRead x.learned := by
      rw [stderrKept, stderrRead_eq x.learned]
      rcases hseen with hnothing | hended
      · rw [hnothing, ite_self]
      · rw [if_pos hended]
    rwa [hequal] at hkept

/-- The words that come after the exit are read, and lost when their stream stays open. -/
theorem output_lost :
    let x := (start {}).run [.learn .connected, .report (.code 0), .learn (.exited (.code 0)),
      .offer (.bytes [79, 104] (by decide)), .learn (.stderr [79, 104]), .learn .graceOver]
    x.published = [.created, .opened, .closed] ∧ stderrRead x.learned = [79, 104] ∧
      stdoutRead x.learned = [] ∧ x.driver.output = [] ∧
      ¬Interleaves (stderrRead x.learned) (stdoutRead x.learned) x.driver.output := by
  intro x
  have hread : stderrRead x.learned = [79, 104] := by decide +kernel
  have hstdout : stdoutRead x.learned = [] := by decide +kernel
  have houtput : x.driver.output = [] := by decide +kernel
  refine ⟨by decide +kernel, hread, hstdout, houtput, fun hall => ?_⟩
  have hlength := hall.length_eq
  rw [hread, hstdout, houtput] at hlength
  cases hlength

end System

end BrowserGrid.Exec
