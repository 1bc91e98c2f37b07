import BrowserGrid.Proofs.Exec.Ending
import BrowserGrid.Simulation.Execution

/-!
# What a caller is told of the connection

The handle of an execution lets its caller wait for the connection, again and again, and give up a
wait.  A `Handle` is such a handle with the execution behind it (`System`): the driver learns what
it learns in any order, and in between the caller waits, looks and gives up as it likes.  Every wait
that is over leaves an `Answer`.

* `answers_run`: in every run the first wait is told that the transport is connected if it is, and
  why not if it was refused; every later one is told that it is connected, whatever has happened.
  So what the caller is told is true exactly if no later wait was over before the transport was
  connected.
-/

namespace BrowserGrid.Exec

open Simulation (Execution)

/-! ### A handle and its caller -/

/-- What a wait for the connection ended with. -/
structure Answer where
  /-- How many waits had begun before it. -/
  wait : Nat
  /-- What the caller is told. -/
  result : Except ClusterError Unit
  /-- What had been published then, the first state first. -/
  published : List ExecState

/-- An execution and the handle through which its caller sees it. -/
structure Handle where
  /-- The execution. -/
  system : System
  /-- What the handle knows. -/
  own : Execution
  /-- How many waits for the connection have begun. -/
  waits : Nat := 0
  /-- The wait that is not over, by the number of those before it. -/
  waiting : Option Nat := none
  /-- How the waits were answered, the first one first. -/
  answers : List Answer := []

/-- Something that can happen to a handle or behind it. -/
inductive Use where
  /-- The caller begins to wait for the connection. -/
  | wait
  /-- The caller looks whether the wait is over. -/
  | look
  /-- The caller gives up its wait. -/
  | abandon
  /-- Something happens to the execution. -/
  | deed (deed : Deed)
  deriving DecidableEq

namespace Handle

/-- The handle of a command that has just been started in a pod. -/
def start (pod : String) (command : List String) (options : ExecOptions) : Handle where
  system := .start options
  own := { pod, command, driver := .start options }

/-- What the handle sees of the execution. -/
def view (h : Handle) : Execution := { h.own with driver := h.system.driver }

/-- The caller looks whether its wait is over. -/
def look (h : Handle) : Handle :=
  match h.waiting with
  | none => h
  | some wait =>
    match h.view.awaitOpen with
    | (none, own) => { h with own }
    | (some result, own) =>
      { h with
        own
        waiting := none
        answers := h.answers ++ [⟨wait, result, h.system.published⟩] }

/-- The caller begins to wait. -/
def begin (h : Handle) : Handle := { h with waits := h.waits + 1, waiting := some h.waits }

/-- Let something happen.  Only one wait goes on at a time, and none begins when the handle is
gone. -/
def step (h : Handle) : Use → Handle
  | .wait => if h.waiting.isSome || h.system.handleGone then h else h.begin.look
  | .look => h.look
  | .abandon =>
    if h.waiting.isSome then { h with own := h.view.abandonOpen, waiting := none } else h
  | .deed deed => { h with system := h.system.step deed }

/-- Let one thing happen after the other. -/
def run (h : Handle) (uses : List Use) : Handle := uses.foldl step h

/-- An answer is `.ok` only if `.opened` was published by then, and once the transport has refused
with an error, every answer is `execFailed` with that error. -/
structure Truthful (h : Handle) : Prop where
  opened : ∀ answer ∈ h.answers, answer.result = .ok () → .opened ∈ answer.published
  refused : ∀ error, .refused error ∈ h.system.learned → ∀ answer ∈ h.answers,
    answer.result = .error (.execFailed (h.own.description ++ ": " ++ error.message))

/-! ### What one look finds -/

variable {options : ExecOptions} {x : Execution} {learned : List Event}

/-- One of three states of `x`, told by `wasOpened` and `neverOpens`: undecided, opened, or refused
with an `openFailure` that shows the refusal in `learned`. -/
inductive Connection (learned : List Event) (x : Execution) : Prop where
  | pending (hopened : x.wasOpened = false) (hnever : x.neverOpens = false)
  | opened (hopened : x.wasOpened = true)
  | refused (hopened : x.wasOpened = false) (hnever : x.neverOpens = true) {error : ClusterError}
    (herror : .refused error ∈ learned)
    (hfailure : x.openFailure = .execFailed (x.description ++ ": " ++ error.message))

theorem connection_of_follows (h : Driver.Follows options learned x.driver) :
    Connection learned x := by
  cases h.course with
  | connecting hphase hpublished =>
    refine .pending ?_ ?_
    · simp [Execution.wasOpened, hpublished]
    · simp [Execution.neverOpens, hphase]
  | @refused error hphase hpublished _ hrefused =>
    have hopened : x.wasOpened = false := by simp [Execution.wasOpened, hpublished]
    refine .refused hopened ?_ ((hrefused error).2 rfl) ?_
    · simp [Execution.neverOpens, hphase, hopened]
    · simp [Execution.openFailure, Driver.state, hpublished]
  | running _ hpublished | past _ hpublished | ended _ hpublished =>
    refine .opened ?_
    simp [Execution.wasOpened, hpublished]

theorem wasOpened_iff (h : Handle) : h.view.wasOpened = true ↔ .opened ∈ h.system.published := by
  rw [Execution.wasOpened, List.contains_iff_mem, System.published, List.mem_reverse]
  rfl

/-! ### The answers of a run -/

/-- The result of `answer` by `answer.wait`, the number of waits before it: the first wait gives the
opening or the refusal that was learned, and every later one is `.ok`. -/
inductive Given (description : String) (learned : List Event) (answer : Answer) : Prop where
  | opened (hfirst : answer.wait = 0) (hresult : answer.result = .ok ())
    (hopened : .opened ∈ answer.published)
  | refused (hfirst : answer.wait = 0) (hopened : .opened ∉ answer.published) {error : ClusterError}
    (herror : .refused error ∈ learned)
    (hresult : answer.result = .error (.execFailed (description ++ ": " ++ error.message)))
  | later (hlater : 0 < answer.wait) (hresult : answer.result = .ok ())

/-- The driver of `h` follows `h.system.learned` under `options`; `h.own.awaited` is set once the
first wait is over; and every answer in `h.answers` is `Given` by what was learned, with a list
`published` that is a prefix of the published states. -/
structure AnswersGiven (options : ExecOptions) (description : String) (h : Handle) : Prop where
  follows : Driver.Follows options h.system.learned h.system.driver
  description_eq : h.own.description = description
  /-- Only the first wait has anything to wait for. -/
  awaited_iff : h.own.awaited = true ↔ 0 < h.waiting.getD h.waits
  waits_eq : ∀ wait, h.waiting = some wait → h.waits = wait + 1
  answers : ∀ answer ∈ h.answers,
    Given description h.system.learned answer ∧ answer.published <+: h.system.published

theorem Given.mono {description : String} {learned learned' : List Event} {answer : Answer}
    (h : Given description learned answer) (hlearned : ∀ e ∈ learned, e ∈ learned') :
    Given description learned' answer := by
  cases h with
  | opened hfirst hresult hopened => exact .opened hfirst hresult hopened
  | refused hfirst hopened herror hresult =>
    exact .refused hfirst hopened (hlearned _ herror) hresult
  | later hlater hresult => exact .later hlater hresult

theorem answersGiven_start (pod : String) (command : List String) (options : ExecOptions) :
    AnswersGiven options (execDescription command pod) (start pod command options) where
  follows := Driver.follows_start options
  description_eq := rfl
  awaited_iff := by simp [start]
  waits_eq := nofun
  answers := nofun

variable {description : String} {h : Handle} {wait : Nat}

/-- A look that finds an answer ends the wait. -/
theorem AnswersGiven.answered (hanswers : AnswersGiven options description h)
    (hwaiting : h.waiting = some wait) {own : Execution} {result : Except ClusterError Unit}
    (hlook : h.view.awaitOpen = (some result, own))
    (hdescription : own.description = h.own.description) (hawaited : own.awaited = true)
    (hgiven : Given description h.system.learned ⟨wait, result, h.system.published⟩) :
    AnswersGiven options description h.look := by
  have hlooked : h.look = { h with
      own
      waiting := none
      answers := h.answers ++ [⟨wait, result, h.system.published⟩] } := by
    simp only [look, hwaiting, hlook]
  rw [hlooked]
  exact {
    follows := hanswers.follows
    description_eq := hdescription.trans hanswers.description_eq
    awaited_iff := iff_of_true hawaited (by simp [hanswers.waits_eq wait hwaiting])
    waits_eq := nofun
    answers := fun answer hanswer => by
      rcases List.mem_append.1 hanswer with hold | hnew
      · exact hanswers.answers answer hold
      · rw [List.mem_singleton.1 hnew]
        exact ⟨hgiven, List.prefix_rfl⟩ }

theorem AnswersGiven.look (hanswers : AnswersGiven options description h) :
    AnswersGiven options description h.look := by
  cases hwaiting : h.waiting with
  | none =>
    have hsame : h.look = h := by simp only [Handle.look, hwaiting]
    rw [hsame]
    exact hanswers
  | some wait =>
    have hwait : h.own.awaited = true ↔ 0 < wait := by simpa [hwaiting] using hanswers.awaited_iff
    -- a later wait is over at once; only the first one depends on what the driver has learned
    cases hawaited : h.own.awaited with
    | true =>
      have hlook : h.view.awaitOpen = (some (.ok ()), h.view) := if_pos hawaited
      exact hanswers.answered hwaiting hlook rfl hawaited (.later (hwait.1 hawaited) rfl)
    | false =>
      have hfirst : wait = 0 := by
        by_contra hlater
        rw [hwait.2 (Nat.pos_of_ne_zero hlater)] at hawaited
        cases hawaited
      have hnot : h.view.awaited = false := hawaited
      have hfollows : Driver.Follows options h.system.learned h.view.driver := hanswers.follows
      cases connection_of_follows hfollows with
      | pending hopened hnever =>
        have hlook : h.view.awaitOpen = (none, h.view) := by
          simp [Execution.awaitOpen, hnot, hopened, hnever]
        have hlooked : h.look = { h with own := h.view } := by
          simp only [Handle.look, hwaiting, hlook]
        rw [hlooked]
        exact ⟨hanswers.follows, hanswers.description_eq, hanswers.awaited_iff, hanswers.waits_eq,
          hanswers.answers⟩
      | opened hopened =>
        have hlook : h.view.awaitOpen = (some (.ok ()), h.view.handOver) := by
          simp [Execution.awaitOpen, hnot, hopened]
        exact hanswers.answered hwaiting hlook rfl rfl (.opened hfirst rfl (h.wasOpened_iff.1 hopened))
      | @refused hopened hnever error herror hfailure =>
        have hlook : h.view.awaitOpen =
            (some (.error h.view.openFailure), { h.view with awaited := true }) := by
          simp [Execution.awaitOpen, hnot, hopened, hnever]
        have hunopened : .opened ∉ h.system.published := fun hmem => by
          rw [h.wasOpened_iff.2 hmem] at hopened
          cases hopened
        refine hanswers.answered hwaiting hlook rfl rfl (.refused hfirst hunopened herror ?_)
        rw [hfailure, ← hanswers.description_eq]
        rfl

theorem AnswersGiven.step (hanswers : AnswersGiven options description h) (use : Use) :
    AnswersGiven options description (h.step use) := by
  cases use with
  | look => exact hanswers.look
  | wait =>
    unfold Handle.step
    dsimp only
    split
    · exact hanswers
    · rename_i hfree
      have hwaiting : h.waiting = none := by
        cases hwaiting : h.waiting with
        | none => rfl
        | some wait => simp [hwaiting] at hfree
      refine AnswersGiven.look
        ⟨hanswers.follows, hanswers.description_eq, ?_, ?_, hanswers.answers⟩
      · simpa [begin, hwaiting] using hanswers.awaited_iff
      · intro wait hwait
        cases hwait
        rfl
  | abandon =>
    unfold Handle.step
    dsimp only
    split
    · rename_i hsome
      obtain ⟨wait, hwaiting⟩ := Option.isSome_iff_exists.1 hsome
      exact ⟨hanswers.follows, hanswers.description_eq,
        iff_of_true rfl (by simp [hanswers.waits_eq wait hwaiting]), nofun, hanswers.answers⟩
    · exact hanswers
  | deed deed =>
    refine ⟨System.follows_step h.system deed hanswers.follows, hanswers.description_eq,
      hanswers.awaited_iff, hanswers.waits_eq, fun answer hanswer => ?_⟩
    obtain ⟨hgiven, hbefore⟩ := hanswers.answers answer hanswer
    have hlearned : ∀ e ∈ h.system.learned, e ∈ (h.system.step deed).learned := by
      obtain ⟨-, hsame⟩ | ⟨e, -, -, -, hmore⟩ := h.system.driver_step deed
      · rw [hsame]
        exact fun e he => he
      · rw [hmore]
        exact fun e he => List.mem_append_left _ he
    exact ⟨hgiven.mono hlearned, hbefore.trans (System.published_grows_step h.system deed)⟩

theorem answersGiven_run (pod : String) (command : List String) (options : ExecOptions)
    (uses : List Use) :
    AnswersGiven options (execDescription command pod) ((start pod command options).run uses) := by
  have hrun : ∀ h, AnswersGiven options (execDescription command pod) h →
      AnswersGiven options (execDescription command pod) (h.run uses) := by
    induction uses with
    | nil => exact fun h hanswers => hanswers
    | cons use uses ih => exact fun h hanswers => ih _ (hanswers.step use)
  exact hrun _ (answersGiven_start pod command options)

/-- In every run the first wait for the connection tells what has happened: that the transport is
connected, or why it is not.  A later wait tells that it is connected.  So the answers are true
exactly if the transport had been connected whenever a later wait was over. -/
theorem answers_run (pod : String) (command : List String) (options : ExecOptions)
    (uses : List Use) :
    let h := (start pod command options).run uses
    (∀ answer ∈ h.answers,
      (answer.wait = 0 →
        (answer.result = .ok () ∧ .opened ∈ answer.published) ∨
          (.opened ∉ answer.published ∧ ∃ error, .refused error ∈ h.system.learned ∧
            answer.result =
              .error (.execFailed (execDescription command pod ++ ": " ++ error.message)))) ∧
        (0 < answer.wait → answer.result = .ok ())) ∧
      (h.Truthful ↔ ∀ answer ∈ h.answers, 0 < answer.wait → .opened ∈ answer.published) := by
  intro h
  have hanswers : AnswersGiven options (execDescription command pod) h :=
    answersGiven_run pod command options uses
  have hresult : ∀ answer ∈ h.answers, 0 < answer.wait → answer.result = .ok () := by
    intro answer hanswer hlater
    cases (hanswers.answers answer hanswer).1 with
    | opened hfirst | refused hfirst => omega
    | later _ hresult => exact hresult
  refine ⟨fun answer hanswer => ⟨fun hfirst => ?_, hresult answer hanswer⟩, ?_, ?_⟩
  · cases (hanswers.answers answer hanswer).1 with
    | opened _ hresult hopened => exact .inl ⟨hresult, hopened⟩
    | refused _ hopened herror hresult => exact .inr ⟨hopened, _, herror, hresult⟩
    | later hlater => omega
  · intro htrue answer hanswer hlater
    exact htrue.opened answer hanswer (hresult answer hanswer hlater)
  · intro hopen
    refine ⟨fun answer hanswer hok => ?_, fun error herror answer hanswer => ?_⟩
    · cases (hanswers.answers answer hanswer).1 with
      | opened _ _ hopened => exact hopened
      | refused _ _ _ hrefused =>
        rw [hok] at hrefused
        cases hrefused
      | later hlater => exact hopen answer hanswer hlater
    · -- after a refusal nobody can have seen the transport connected, so no later wait was over
      have hpublished := hanswers.follows.published.of_refused herror
      have hunopened : .opened ∉ answer.published := fun hmem => by
        have hnow : .opened ∈ h.system.published := (hanswers.answers answer hanswer).2.subset hmem
        rw [System.published, hpublished] at hnow
        simp at hnow
      cases (hanswers.answers answer hanswer).1 with
      | opened _ _ hopened => exact absurd hopened hunopened
      | later hlater => exact absurd (hopen answer hanswer hlater) hunopened
      | @refused _ _ error' herror' hresult =>
        have hsame : error'.message = error.message := by
          have htwice := (hanswers.follows.published.of_refused herror').symm.trans hpublished
          simpa using htwice
        rw [hresult, hsame, hanswers.description_eq]

/-- Whoever asks again after a refusal is told that the transport is connected, and so is whoever
asks again after a wait that was given up. -/
theorem answers_untrue :
    let refusal := ClusterError.podNotFound "pod"
    let refused := (start "pod" ["ls"] {}).run
      [.wait, .deed (.learn (.refused refusal)), .look, .wait]
    let pending := (start "pod" ["ls"] {}).run [.wait, .abandon, .wait]
    (refused.answers =
          [⟨0, .error (.execFailed (execDescription ["ls"] "pod" ++ ": " ++ refusal.message)),
              [.created, .failed refusal.message]⟩,
            ⟨1, .ok (), [.created, .failed refusal.message]⟩] ∧
        refused.system.learned = [.refused refusal] ∧ ¬refused.Truthful) ∧
      pending.answers = [⟨1, .ok (), [.created]⟩] ∧ ¬pending.Truthful := by
  intro refusal refused pending
  have hrefused : refused.answers =
      [⟨0, .error (.execFailed (execDescription ["ls"] "pod" ++ ": " ++ refusal.message)),
          [.created, .failed refusal.message]⟩,
        ⟨1, .ok (), [.created, .failed refusal.message]⟩] := by
    rfl
  have hpending : pending.answers = [⟨1, .ok (), [.created]⟩] := by rfl
  refine ⟨⟨hrefused, rfl, fun htrue => ?_⟩, hpending, fun htrue => ?_⟩
  · have hopened := htrue.opened _ (hrefused ▸ List.mem_cons_of_mem _ List.mem_cons_self) rfl
    simp at hopened
  · have hopened := htrue.opened _ (hpending ▸ List.mem_cons_self) rfl
    simp at hopened

end Handle

end BrowserGrid.Exec
