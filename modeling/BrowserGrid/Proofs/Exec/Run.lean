import BrowserGrid.Exec.Driver
import Mathlib.Data.List.Basic

/-!
# Runs of an execution

A `System` is the driver of an execution together with what stands around it at one moment: what the
transport has ready to be read and reported, what the caller has asked for, and the history so far.
`System.step` lets one thing happen, a `Deed`; a deed that is not possible changes nothing.  The
driver learns of one thing at a time, in any order of what there is for it to learn
(`System.ready`), so the lists of deeds are all the orders in which a caller, a transport and a
driver can act (`System.run`).

What a driver makes of what it learns is one of few things (`Driver.Turn`, `turn_of_ready`): it
connects or is refused, it hears the error stream, it is asked for the end, it sees the exit, it
finishes what is left to do after the exit (`Driver.Finishes`), or nothing that counts in the end
changes.
-/

namespace BrowserGrid.Exec

/-! ### What the driver can learn -/

/-- What a read of the error stream gives. -/
inductive StderrRead where
  /-- Bytes. -/
  | bytes (bytes : List UInt8) (nonempty : bytes ≠ [])
  /-- The end. -/
  | ended
  /-- A failure. -/
  | failed
  deriving DecidableEq

/-- What the driver learns by a read. -/
def StderrRead.event : StderrRead → Event
  | bytes words _ => .stderr words
  | ended => .stderrEnd
  | failed => .stderrError

namespace Event

/-- The exit that becomes known. -/
def exit? : Event → Option ExecExit
  | exited exit => some exit
  | _ => none

/-- The bytes that were read from the error stream. -/
def words? : Event → Option (List UInt8)
  | stderr bytes => some bytes
  | _ => none

/-- Whether it was read from the error stream. -/
def isStderr : Event → Bool
  | stderr _ | stderrEnd | stderrError => true
  | _ => false

/-- Whether it is about the output, which somebody other than the driver collects. -/
def isStdout : Event → Bool
  | stdout _ | stdoutEnd => true
  | _ => false

/-- Whether it answers the attempt to connect. -/
def isOpening : Event → Bool
  | connected | refused _ => true
  | _ => false

/-- Whether it never counts in the end. -/
def isSilent : Event → Bool
  | stderrEnd | stderrError | stdout _ | stdoutEnd => true
  | _ => false

end Event

/-- The exit that the driver has seen, while it finishes. -/
def Phase.exit? : Phase → Option ExecExit
  | draining exit _ | collecting exit => some exit
  | _ => none

/-- Whether the driver reads from the error stream. -/
def Driver.listens (d : Driver) : Bool :=
  match d.phase with
  | .running => d.stderrOpen
  | .draining .. => true
  | _ => false

/-! ### An execution and what stands around it -/

/-- Something that can happen to an execution or around it. -/
inductive Deed where
  /-- The caller asks for the end. -/
  | close
  /-- The caller lets go of its handle. -/
  | drop
  /-- There is something to be read from the error stream. -/
  | offer (read : StderrRead)
  /-- The end of the command is reported, or nobody is left to report it. -/
  | report (exit : ExecExit)
  /-- The driver learns something. -/
  | learn (e : Event)
  deriving DecidableEq

/-- What is learned. -/
def Deed.event? : Deed → Option Event
  | learn e => some e
  | _ => none

/-- A driver and what stands around it. -/
structure System where
  /-- The driver. -/
  driver : Driver
  /-- What the next reads of the error stream give. -/
  stderr : List StderrRead := []
  /-- How many requests for the end the driver has not taken. -/
  closeRequests : Nat := 0
  /-- Whether the caller has let go of its handle. -/
  handleGone : Bool := false
  /-- The report of the end of the command. -/
  exit : Option ExecExit := none
  /-- How many signals to end the command have been sent. -/
  signals : Nat := 0
  /-- What has happened. -/
  history : List Deed := []

namespace System

/-- An execution that has just been started. -/
def start (options : ExecOptions) : System := { driver := .start options }

/-- Whether there is this for the driver to learn.  A request for the end counts only as long as the
signal has not been sent, and a handle that is gone is a request that never goes away. -/
def ready (x : System) (e : Event) : Bool :=
  match e with
  | .connected | .refused _ => x.driver.phase = .connecting
  | .stderr _ | .stderrEnd | .stderrError =>
    x.driver.listens && x.stderr.head?.map StderrRead.event = some e
  | .stdout _ | .stdoutEnd => x.driver.collecting
  | .closeRequest =>
    x.driver.phase = .running && !x.driver.killed && (x.closeRequests > 0 || x.handleGone)
  | .exited exit => x.driver.phase = .running && x.exit = some exit
  | .graceOver => x.driver.phase.exit?.isSome

/-- The driver learns something; it sends the signal when it marks it as sent. -/
def learn (x : System) (e : Event) : System :=
  { x with
    driver := x.driver.on e
    stderr := if e.isStderr then x.stderr.tail else x.stderr
    closeRequests := if e = .closeRequest then x.closeRequests - 1 else x.closeRequests
    signals := if !x.driver.killed && (x.driver.on e).killed then x.signals + 1 else x.signals }

/-- Whether something can happen. -/
def possible (x : System) : Deed → Bool
  | .close | .drop => !x.handleGone
  | .offer _ => true
  | .report _ => x.exit.isNone
  | .learn e => x.ready e

/-- What a deed does. -/
def perform (x : System) : Deed → System
  | .close => { x with closeRequests := x.closeRequests + 1 }
  | .drop => { x with handleGone := true }
  | .offer read => { x with stderr := x.stderr ++ [read] }
  | .report exit => { x with exit := some exit }
  | .learn e => x.learn e

/-- Let something happen. -/
def step (x : System) (deed : Deed) : System :=
  if x.possible deed then { x.perform deed with history := x.history ++ [deed] } else x

/-- Let one thing happen after the other. -/
def run (x : System) (deeds : List Deed) : System := deeds.foldl step x

/-- What the driver has learned. -/
def learned (x : System) : List Event := x.history.filterMap Deed.event?

/-- The published states, the first one first. -/
def published (x : System) : List ExecState := x.driver.published.reverse

/-- The command runs, and there is nothing for the driver to learn. -/
def Waits (x : System) : Prop :=
  x.driver.phase = .running ∧ ∀ e, x.ready e = true → e.isStdout = true

@[simp] theorem run_nil (x : System) : x.run [] = x := rfl

@[simp] theorem run_cons (x : System) (deed : Deed) (deeds : List Deed) :
    x.run (deed :: deeds) = (x.step deed).run deeds := rfl

/-- What each step preserves holds after every run. -/
theorem run_induction {P : System → Prop} (hstep : ∀ x deed, P x → P (step x deed)) {x : System}
    (h : P x) (deeds : List Deed) : P (x.run deeds) := by
  induction deeds generalizing x with
  | nil => exact h
  | cons deed deeds ih => exact ih (hstep x deed h)

theorem step_of_not {x : System} {deed : Deed} (h : x.possible deed = false) : x.step deed = x := by
  rw [step, if_neg (by simp [h])]

theorem step_of_possible {x : System} {deed : Deed} (h : x.possible deed = true) :
    x.step deed = { x.perform deed with history := x.history ++ [deed] } := by
  rw [step, if_pos h]

end System

/-! ### What the driver makes of what it learns -/

namespace Driver

/-- Two drivers with the same options, `complaint`, `closedByCaller` and `killed`. -/
structure Alike (d d' : Driver) : Prop where
  options_eq : d'.options = d.options
  complaint_eq : d'.complaint = d.complaint
  closedByCaller_eq : d'.closedByCaller = d.closedByCaller
  killed_eq : d'.killed = d.killed

/-- In the step from `d` to `d'`, the exit stays seen and `published` as it was, or `d'` has ended
and published the verdict on `d.complaint`, `d.closedByCaller` and `exit`. -/
inductive Finishes (d : Driver) (exit : ExecExit) (d' : Driver) : Prop where
  | later (halike : Alike d d') (hphase : d'.phase.exit? = some exit)
    (hpublished : d'.published = d.published)
  | now (halike : Alike d d') (hphase : d'.phase = .ended)
    (hpublished : d'.published = .verdict d.complaint d.closedByCaller exit :: d.published)

theorem Finishes.alike {d d' : Driver} {exit : ExecExit} (h : d.Finishes exit d') : Alike d d' := by
  cases h <;> assumption

theorem finishes_conclude {d d' : Driver} (exit : ExecExit) (halike : Alike d d')
    (hpublished : d'.published = d.published) : d.Finishes exit (d'.conclude exit) := by
  refine .now ⟨halike.1, halike.2, halike.3, halike.4⟩ rfl ?_
  show ExecState.verdict d'.complaint d'.closedByCaller exit :: d'.published = _
  rw [halike.complaint_eq, halike.closedByCaller_eq, hpublished]

theorem finishes_afterStderr {d d' : Driver} (exit : ExecExit) (halike : Alike d d')
    (hpublished : d'.published = d.published) : d.Finishes exit (d'.afterStderr exit) := by
  unfold afterStderr
  split
  · exact .later ⟨halike.1, halike.2, halike.3, halike.4⟩ rfl hpublished
  · exact finishes_conclude exit halike hpublished

theorem on_closeRequest {d : Driver} (hphase : d.phase = .running) (hkilled : d.killed = false) :
    d.on .closeRequest = { d with closedByCaller := true, killed := true } := by
  simp [on, hphase, hkilled]

/-- The step of a driver by the event that it learns and by its phase: one constructor for each part
of its loop. -/
inductive Turn (d : Driver) : Event → Driver → Prop where
  /-- It connects. -/
  | connected (hphase : d.phase = .connecting) : Turn d .connected d.connect
  /-- It is refused. -/
  | refused (hphase : d.phase = .connecting) (error : ClusterError) :
    Turn d (.refused error) (d.refuse error)
  /-- It hears the error stream while the command runs. -/
  | heard (hphase : d.phase = .running) {bytes : List UInt8} (hbytes : bytes ≠ []) :
    Turn d (.stderr bytes) (d.hear bytes)
  /-- It takes a request for the end. -/
  | asked (hphase : d.phase = .running) (hkilled : d.killed = false) :
    Turn d .closeRequest { d with closedByCaller := true, killed := true }
  /-- It sees the exit. -/
  | exited (hphase : d.phase = .running) {exit : ExecExit} {d' : Driver}
    (hfinishes : d.Finishes exit d') : Turn d (.exited exit) d'
  /-- It has seen the exit before. -/
  | past {e : Event} (hopening : e.isOpening = false) {exit : ExecExit} {d' : Driver}
    (hphase : d.phase.exit? = some exit) (hfinishes : d.Finishes exit d') : Turn d e d'
  /-- Nothing that counts in the end changes. -/
  | aside {e : Event} {d' : Driver} (hsilent : e.isSilent = true) (halike : Alike d d')
    (hphase : d'.phase = d.phase) (hpublished : d'.published = d.published) : Turn d e d'

end Driver

namespace System

open Driver

theorem turn_of_stderr {x : System} {e : Event} (hlistens : x.driver.listens = true)
    (hhead : x.stderr.head?.map StderrRead.event = some e) : Turn x.driver e (x.driver.on e) := by
  obtain ⟨read, -, rfl⟩ := Option.map_eq_some_iff.1 hhead
  cases hphase : x.driver.phase with
  | running =>
    cases read with
    | bytes bytes hbytes =>
      show Turn _ (.stderr bytes) (x.driver.on (.stderr bytes))
      simp only [on, hphase]
      exact .heard hphase hbytes
    | ended | failed =>
      simp only [StderrRead.event, on, hphase]
      exact .aside rfl ⟨rfl, rfl, rfl, rfl⟩ hphase.symm rfl
  | draining exit rest =>
    have hexit : x.driver.phase.exit? = some exit := by rw [hphase]; rfl
    cases read with
    | bytes bytes hbytes =>
      simp only [StderrRead.event, on, hphase]
      exact .past rfl hexit (.later ⟨rfl, rfl, rfl, rfl⟩ rfl rfl)
    | ended | failed =>
      simp only [StderrRead.event, on, hphase]
      exact .past rfl hexit (finishes_afterStderr exit ⟨rfl, rfl, rfl, rfl⟩ rfl)
  | connecting | collecting | ended => simp [listens, hphase] at hlistens

theorem turn_of_ready {x : System} {e : Event} (h : x.ready e = true) :
    Turn x.driver e (x.driver.on e) := by
  cases e with
  | connected =>
    have hphase : x.driver.phase = .connecting := by simpa [ready] using h
    simp only [on, hphase]
    exact .connected hphase
  | refused error =>
    have hphase : x.driver.phase = .connecting := by simpa [ready] using h
    simp only [on, hphase]
    exact .refused hphase error
  | stderr bytes | stderrEnd | stderrError =>
    simp only [ready, Bool.and_eq_true, decide_eq_true_eq] at h
    exact turn_of_stderr h.1 h.2
  | stdout bytes =>
    simp only [on]
    split <;> exact .aside rfl ⟨rfl, rfl, rfl, rfl⟩ rfl rfl
  | stdoutEnd =>
    cases hphase : x.driver.phase with
    | collecting exit =>
      simp only [on, hphase]
      exact .past rfl (by rw [hphase]; rfl) (finishes_conclude exit ⟨rfl, rfl, rfl, rfl⟩ rfl)
    | connecting | running | draining | ended =>
      simp only [on, hphase]
      exact .aside rfl ⟨rfl, rfl, rfl, rfl⟩ hphase.symm rfl
  | closeRequest =>
    simp only [ready, Bool.and_eq_true, decide_eq_true_eq, Bool.not_eq_true'] at h
    rw [on_closeRequest h.1.1 h.1.2]
    exact .asked h.1.1 h.1.2
  | exited exit =>
    simp only [ready, Bool.and_eq_true, decide_eq_true_eq] at h
    refine .exited h.1 ?_
    simp only [on, h.1]
    split
    · exact .later ⟨rfl, rfl, rfl, rfl⟩ rfl rfl
    · exact finishes_afterStderr exit ⟨rfl, rfl, rfl, rfl⟩ rfl
  | graceOver =>
    cases hphase : x.driver.phase with
    | draining exit rest =>
      simp only [on, hphase]
      exact .past rfl (by rw [hphase]; rfl) (finishes_afterStderr exit ⟨rfl, rfl, rfl, rfl⟩ rfl)
    | collecting exit =>
      simp only [on, hphase]
      exact .past rfl (by rw [hphase]; rfl) (finishes_conclude exit ⟨rfl, rfl, rfl, rfl⟩ rfl)
    | connecting | running | ended => simp [ready, hphase, Phase.exit?] at h

end System

end BrowserGrid.Exec
