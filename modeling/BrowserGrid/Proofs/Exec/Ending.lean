import BrowserGrid.Proofs.Exec.Run
import Mathlib.Data.List.Infix
import Mathlib.Data.List.TakeWhile

/-!
# How an execution ends

The driver keeps two marks while the command runs: what it heard first on the error stream, and
whether it took a request for the end.  `Ending` gives the last state of an execution without them,
from the list of what the driver has learned: the first words on the error stream come before a
request for the end, and that before the exit, and nothing counts that was learned after the exit
was seen.  `Driver.Follows` ties the marks to that list at every moment.

* `published_run`: in every run the published states are the created, the opened and the last one,
  or the created and the failed one, as far as the run has come; the last one is what `Ending` says,
  it never changes, and it comes at the latest when the waits of the driver are over.
-/

namespace BrowserGrid.Exec

/-! ### What was learned before the exit was seen -/

/-- What was learned before the exit was seen. -/
def beforeExit (learned : List Event) : List Event := learned.takeWhile (·.exit?.isNone)

/-- The exit that was seen. -/
def seenExit? (learned : List Event) : Option ExecExit := learned.findSome? Event.exit?

/-- What was read first from the error stream, if that was before the exit was seen. -/
def firstWords? (learned : List Event) : Option (List UInt8) :=
  (beforeExit learned).findSome? Event.words?

theorem seenExit?_append (learned : List Event) (e : Event) :
    seenExit? (learned ++ [e]) = (seenExit? learned).or e.exit? := by
  rw [seenExit?, List.findSome?_append, List.findSome?_singleton, seenExit?]

theorem beforeExit_of_unseen {learned : List Event} (h : seenExit? learned = none) :
    beforeExit learned = learned := by
  refine List.takeWhile_eq_self_iff.2 fun e he => ?_
  rw [List.findSome?_eq_none_iff.1 h e he]
  rfl

theorem beforeExit_append_of_unseen {learned : List Event} (h : seenExit? learned = none)
    (e : Event) :
    beforeExit (learned ++ [e]) = if e.exit?.isNone then learned ++ [e] else learned := by
  have hall : ∀ e ∈ learned, e.exit?.isNone = true := by
    intro e he
    rw [List.findSome?_eq_none_iff.1 h e he]
    rfl
  rw [beforeExit, List.takeWhile_append_of_pos hall, List.takeWhile_cons, List.takeWhile_nil]
  split
  · rfl
  · exact List.append_nil _

theorem beforeExit_append_of_seen {learned : List Event} {exit : ExecExit}
    (h : seenExit? learned = some exit) (e : Event) :
    beforeExit (learned ++ [e]) = beforeExit learned := by
  obtain ⟨front, last, back, rfl, hlast, hfront⟩ := List.findSome?_eq_some_iff.1 h
  have hall : ∀ e ∈ front, e.exit?.isNone = true := fun e he => by rw [hfront e he]; rfl
  have hstop : ∀ later : List Event, (last :: later).takeWhile (·.exit?.isNone) = [] :=
    fun _ => List.takeWhile_cons_of_neg (by simp [hlast])
  rw [beforeExit, beforeExit, List.append_assoc, List.takeWhile_append_of_pos hall,
    List.takeWhile_append_of_pos hall, List.cons_append, hstop, hstop]

theorem firstWords?_append_of_unseen {learned : List Event} (h : seenExit? learned = none)
    (e : Event) : firstWords? (learned ++ [e]) = (firstWords? learned).or e.words? := by
  rw [firstWords?, beforeExit_append_of_unseen h, firstWords?, beforeExit_of_unseen h]
  cases e <;> simp [Event.exit?, Event.words?]

theorem firstWords?_append_of_seen {learned : List Event} {exit : ExecExit}
    (h : seenExit? learned = some exit) (e : Event) :
    firstWords? (learned ++ [e]) = firstWords? learned := by
  rw [firstWords?, beforeExit_append_of_seen h, firstWords?]

theorem mem_beforeExit_append_of_unseen {learned : List Event} (h : seenExit? learned = none)
    {e x : Event} (hx : x.exit? = none) :
    x ∈ beforeExit (learned ++ [e]) ↔ x ∈ beforeExit learned ∨ x = e := by
  rw [beforeExit_append_of_unseen h, beforeExit_of_unseen h]
  split
  · rw [List.mem_append, List.mem_singleton]
  · rename_i hexit
    have hne : x ≠ e := fun heq => hexit (by rw [← heq, hx]; rfl)
    simp [hne]

/-- What is neither read from the error stream nor a request for the end changes nothing of that. -/
theorem unmarked_append {e : Event} (hwords : e.words? = none) (hclose : e ≠ .closeRequest)
    (learned : List Event) :
    firstWords? (learned ++ [e]) = firstWords? learned ∧
      (.closeRequest ∈ beforeExit (learned ++ [e]) ↔ .closeRequest ∈ beforeExit learned) := by
  cases hseen : seenExit? learned with
  | none =>
    rw [firstWords?_append_of_unseen hseen, hwords, Option.or_none,
      mem_beforeExit_append_of_unseen hseen rfl]
    simp [hclose.symm]
  | some exit =>
    rw [firstWords?_append_of_seen hseen, beforeExit_append_of_seen hseen]
    exact ⟨rfl, .rfl⟩

theorem mem_append_of_opening {e x : Event} (he : e.isOpening = false) (hx : x.isOpening = true)
    (learned : List Event) : x ∈ learned ++ [e] ↔ x ∈ learned := by
  have hne : x ≠ e := by
    rintro rfl
    rw [he] at hx
    cases hx
  simp [hne]

/-! ### The last state -/

/-- Nothing was read from the error stream that ends the command. -/
def Quiet (options : ExecOptions) (learned : List Event) : Prop :=
  options.closeOnStderr = true → firstWords? learned = none

/-- The states in which an execution can end whose exit is `exit`, by the options and the list
`learned`. -/
inductive Ending (options : ExecOptions) (learned : List Event) : ExecExit → ExecState → Prop where
  /-- The first words on the error stream end the command, whoever asked for the end. -/
  | complaint {bytes : List UInt8} {exit : ExecExit} (hcloses : options.closeOnStderr = true)
    (hwords : firstWords? learned = some bytes) :
    Ending options learned exit
      (.failed ("remote command failed: " ++ Text.trim (Utf8.decodeLossy bytes)))
  /-- The caller has closed it, and its exit does not count. -/
  | closed {exit : ExecExit} (hquiet : Quiet options learned)
    (hasked : .closeRequest ∈ beforeExit learned) : Ending options learned exit .closed
  | succeeded (hquiet : Quiet options learned) (hunasked : .closeRequest ∉ beforeExit learned) :
    Ending options learned (.code 0) .closed
  | exited (hquiet : Quiet options learned) (hunasked : .closeRequest ∉ beforeExit learned)
    {code : Int} (hcode : code ≠ 0) :
    Ending options learned (.code code) (.failed ("exited with code " ++ toString code))
  | terminated (hquiet : Quiet options learned) (hunasked : .closeRequest ∉ beforeExit learned) :
    Ending options learned .signal (.failed "terminated by signal")
  | failed (hquiet : Quiet options learned) (hunasked : .closeRequest ∉ beforeExit learned)
    (error : ClusterError) : Ending options learned (.failed error) (.failed error.message)
  | lost (hquiet : Quiet options learned) (hunasked : .closeRequest ∉ beforeExit learned) :
    Ending options learned .lost (.failed "transport dropped")

/-- What the driver was told of the end of the command, when nobody else has ended it. -/
theorem ending_iff_ofExit {options : ExecOptions} {learned : List Event}
    (hquiet : Quiet options learned) (hunasked : .closeRequest ∉ beforeExit learned)
    (exit : ExecExit) (state : ExecState) :
    Ending options learned exit state ↔ state = .ofExit exit := by
  constructor
  · intro h
    cases h with
    | complaint hcloses hwords =>
      rw [hquiet hcloses] at hwords
      cases hwords
    | closed _ hasked => exact absurd hasked hunasked
    | succeeded | terminated | failed | lost => rfl
    | exited _ _ hcode =>
      unfold ExecState.ofExit
      split <;> simp_all
  · rintro rfl
    unfold ExecState.ofExit
    split
    · exact .succeeded hquiet hunasked
    · rename_i code hcode
      exact .exited hquiet hunasked fun h => hcode (h ▸ rfl)
    · exact .terminated hquiet hunasked
    · exact .failed hquiet hunasked _
    · exact .lost hquiet hunasked

/-! ### The marks of the driver -/

namespace Driver

/-- The phase of `d` and its list `published`, by which of `.connected`, `.refused` and an exit are
in `learned`. -/
inductive Course (learned : List Event) (d : Driver) : Prop where
  | connecting (hphase : d.phase = .connecting) (hpublished : d.published = [.created])
    (hconnected : .connected ∉ learned) (hrefused : ∀ error, .refused error ∉ learned)
    (hexit : seenExit? learned = none)
  | refused {error : ClusterError} (hphase : d.phase = .ended)
    (hpublished : d.published = [.failed error.message, .created])
    (hconnected : .connected ∉ learned)
    (hrefused : ∀ other, .refused other ∈ learned ↔ other = error)
    (hexit : seenExit? learned = none)
  | running (hphase : d.phase = .running) (hpublished : d.published = [.opened, .created])
    (hconnected : .connected ∈ learned) (hrefused : ∀ error, .refused error ∉ learned)
    (hexit : seenExit? learned = none)
  | past {exit : ExecExit} (hphase : d.phase.exit? = some exit)
    (hpublished : d.published = [.opened, .created])
    (hconnected : .connected ∈ learned) (hrefused : ∀ error, .refused error ∉ learned)
    (hexit : seenExit? learned = some exit)
  | ended {exit : ExecExit} (hphase : d.phase = .ended)
    (hpublished : d.published = [.verdict d.complaint d.closedByCaller exit, .opened, .created])
    (hconnected : .connected ∈ learned) (hrefused : ∀ error, .refused error ∉ learned)
    (hexit : seenExit? learned = some exit)

/-- The `complaint` of `d`, its mark `closedByCaller`, its phase and its published states are those
that `learned` gives under `options`. -/
structure Follows (options : ExecOptions) (learned : List Event) (d : Driver) : Prop where
  options_eq : d.options = options
  complaint_eq :
    d.complaint = if options.closeOnStderr then (firstWords? learned).map complaintOf else none
  closedByCaller_iff : d.closedByCaller = true ↔ .closeRequest ∈ beforeExit learned
  course : Course learned d

variable {options : ExecOptions} {learned : List Event} {d d' : Driver}

theorem follows_start (options : ExecOptions) : Follows options [] (start options) where
  options_eq := rfl
  complaint_eq := by split <;> rfl
  closedByCaller_iff := iff_of_false Bool.false_ne_true List.not_mem_nil
  course := .connecting rfl rfl List.not_mem_nil (fun _ => List.not_mem_nil) rfl

/-- The verdict is the last state by what was learned. -/
theorem Follows.ending_iff (h : Follows options learned d) (exit : ExecExit) (state : ExecState) :
    Ending options learned exit state ↔ state = .verdict d.complaint d.closedByCaller exit := by
  have hcomplaint := h.complaint_eq
  -- words on the error stream come first in the verdict, then the request for the end, then the exit
  by_cases hquiet : Quiet options learned
  · have hnone : d.complaint = none := by
      rw [hcomplaint]
      split
      · rename_i hcloses
        rw [hquiet hcloses]
        rfl
      · rfl
    rw [hnone]
    by_cases hasked : .closeRequest ∈ beforeExit learned
    · rw [h.closedByCaller_iff.2 hasked]
      constructor
      · intro hending
        cases hending with
        | complaint hcloses hwords =>
          rw [hquiet hcloses] at hwords
          cases hwords
        | closed => rfl
        | succeeded _ hunasked | exited _ hunasked | terminated _ hunasked | failed _ hunasked
        | lost _ hunasked => exact absurd hasked hunasked
      · rintro rfl
        exact .closed hquiet hasked
    · have hunclosed : d.closedByCaller = false :=
        Bool.eq_false_iff.2 (mt h.closedByCaller_iff.1 hasked)
      rw [hunclosed]
      exact ending_iff_ofExit hquiet hasked exit state
  · obtain ⟨hcloses, hsome⟩ : options.closeOnStderr = true ∧ ¬firstWords? learned = none :=
      Classical.not_imp.1 hquiet
    obtain ⟨bytes, hwords⟩ := Option.ne_none_iff_exists'.1 hsome
    rw [hcomplaint, if_pos hcloses, hwords]
    constructor
    · intro hending
      cases hending with
      | complaint _ hwords' =>
        rw [hwords] at hwords'
        cases hwords'
        rfl
      | closed hquiet' | succeeded hquiet' | exited hquiet' | terminated hquiet' | failed hquiet'
      | lost hquiet' => exact absurd hquiet' hquiet
    · rintro rfl
      exact .complaint hcloses hwords

/-- The marks stay as they are if neither they change nor what they are about. -/
theorem Follows.of_alike {learned' : List Event} (h : Follows options learned d)
    (halike : Alike d d') (hwords : firstWords? learned' = firstWords? learned)
    (hclose : .closeRequest ∈ beforeExit learned' ↔ .closeRequest ∈ beforeExit learned)
    (hcourse : Course learned' d') : Follows options learned' d' where
  options_eq := halike.options_eq.trans h.options_eq
  complaint_eq := by rw [halike.complaint_eq, hwords, h.complaint_eq]
  closedByCaller_iff := by rw [halike.closedByCaller_eq, hclose, h.closedByCaller_iff]
  course := hcourse

theorem Course.of_connecting (h : Course learned d) (hphase : d.phase = .connecting) :
    d.published = [.created] ∧ .connected ∉ learned ∧ (∀ error, .refused error ∉ learned) ∧
      seenExit? learned = none := by
  cases h with
  | connecting _ hpublished hconnected hrefused hexit =>
    exact ⟨hpublished, hconnected, hrefused, hexit⟩
  | refused hother | running hother | past hother | ended hother =>
    simp [hphase, Phase.exit?] at hother

theorem Course.of_running (h : Course learned d) (hphase : d.phase = .running) :
    d.published = [.opened, .created] ∧ .connected ∈ learned ∧
      (∀ error, .refused error ∉ learned) ∧ seenExit? learned = none := by
  cases h with
  | running _ hpublished hconnected hrefused hexit =>
    exact ⟨hpublished, hconnected, hrefused, hexit⟩
  | connecting hother | refused hother | past hother | ended hother =>
    simp [hphase, Phase.exit?] at hother

theorem Course.of_past {exit : ExecExit} (h : Course learned d)
    (hphase : d.phase.exit? = some exit) :
    d.published = [.opened, .created] ∧ .connected ∈ learned ∧
      (∀ error, .refused error ∉ learned) ∧ seenExit? learned = some exit := by
  cases h with
  | past hother hpublished hconnected hrefused hexit =>
    rw [hphase] at hother
    cases hother
    exact ⟨hpublished, hconnected, hrefused, hexit⟩
  | connecting hother | refused hother | running hother | ended hother =>
    simp [hother, Phase.exit?] at hphase

theorem Course.of_finishes {exit : ExecExit} (hfinishes : d.Finishes exit d')
    (hpublished : d.published = [.opened, .created]) (hconnected : .connected ∈ learned)
    (hrefused : ∀ error, .refused error ∉ learned) (hexit : seenExit? learned = some exit) :
    Course learned d' := by
  cases hfinishes with
  | later _ hphase hsame =>
    exact .past hphase (hsame.trans hpublished) hconnected hrefused hexit
  | now halike hphase hnew =>
    refine .ended hphase ?_ hconnected hrefused hexit
    rw [hnew, hpublished, halike.complaint_eq, halike.closedByCaller_eq]

/-- What never counts in the end changes nothing in the course. -/
theorem Course.silent {e : Event} (h : Course learned d) (hsilent : e.isSilent = true)
    (halike : Alike d d') (hphase' : d'.phase = d.phase)
    (hpublished' : d'.published = d.published) : Course (learned ++ [e]) d' := by
  have hopening : e.isOpening = false := by cases e <;> first | rfl | cases hsilent
  have hexit? : e.exit? = none := by cases e <;> first | rfl | cases hsilent
  have hseen : seenExit? (learned ++ [e]) = seenExit? learned := by
    rw [seenExit?_append, hexit?, Option.or_none]
  have hmem : ∀ x : Event, x.isOpening = true → (x ∈ learned ++ [e] ↔ x ∈ learned) :=
    fun x hx => mem_append_of_opening hopening hx learned
  cases h with
  | connecting hphase hpublished hconnected hrefused hexit =>
    exact .connecting (hphase'.trans hphase) (hpublished'.trans hpublished)
      (mt (hmem _ rfl).1 hconnected) (fun error => mt (hmem _ rfl).1 (hrefused error))
      (hseen.trans hexit)
  | refused hphase hpublished hconnected hrefused hexit =>
    exact .refused (hphase'.trans hphase) (hpublished'.trans hpublished)
      (mt (hmem _ rfl).1 hconnected) (fun other => (hmem _ rfl).trans (hrefused other))
      (hseen.trans hexit)
  | running hphase hpublished hconnected hrefused hexit =>
    exact .running (hphase'.trans hphase) (hpublished'.trans hpublished) ((hmem _ rfl).2 hconnected)
      (fun error => mt (hmem _ rfl).1 (hrefused error)) (hseen.trans hexit)
  | past hphase hpublished hconnected hrefused hexit =>
    exact .past (by rw [hphase', hphase]) (hpublished'.trans hpublished) ((hmem _ rfl).2 hconnected)
      (fun error => mt (hmem _ rfl).1 (hrefused error)) (hseen.trans hexit)
  | ended hphase hpublished hconnected hrefused hexit =>
    refine .ended (hphase'.trans hphase) ?_ ((hmem _ rfl).2 hconnected)
      (fun error => mt (hmem _ rfl).1 (hrefused error)) (hseen.trans hexit)
    rw [hpublished', hpublished, halike.complaint_eq, halike.closedByCaller_eq]

/-- A course stays what it is while the command runs. -/
theorem Course.still_running {e : Event} (h : Course learned d) (hphase : d.phase = .running)
    (hopening : e.isOpening = false) (hexit? : e.exit? = none) (hphase' : d'.phase = .running)
    (hpublished' : d'.published = d.published) : Course (learned ++ [e]) d' := by
  obtain ⟨hpublished, hconnected, hrefused, hexit⟩ := h.of_running hphase
  refine .running hphase' (hpublished'.trans hpublished) (List.mem_append_left _ hconnected)
    (fun error => mt (mem_append_of_opening hopening rfl learned).1 (hrefused error)) ?_
  rw [seenExit?_append, hexit, hexit?, Option.or_none]

/-- The first words on the error stream are kept, if they are to end the command. -/
theorem Follows.heard (h : Follows options learned d) (hphase : d.phase = .running)
    (bytes : List UInt8) : Follows options (learned ++ [.stderr bytes]) (d.hear bytes) := by
  have hunseen := (h.course.of_running hphase).2.2.2
  have hwords : firstWords? (learned ++ [.stderr bytes]) = (firstWords? learned).or (some bytes) :=
    firstWords?_append_of_unseen hunseen _
  have hclose : .closeRequest ∈ beforeExit (learned ++ [.stderr bytes]) ↔
      .closeRequest ∈ beforeExit learned := by
    rw [mem_beforeExit_append_of_unseen hunseen rfl]
    simp
  have hcomplaint := h.complaint_eq
  by_cases hends : d.options.closeOnStderr = true ∧ d.complaint = none
  · have hheard : d.hear bytes = { d.collect bytes with
        complaint := some (complaintOf bytes), killed := true } := if_pos hends
    have hcloses : options.closeOnStderr = true := h.options_eq ▸ hends.1
    have hfirst : firstWords? learned = none := by
      rw [if_pos hcloses, hends.2] at hcomplaint
      exact Option.map_eq_none_iff.1 hcomplaint.symm
    rw [hheard]
    exact {
      options_eq := h.options_eq
      complaint_eq := by rw [if_pos hcloses, hwords, hfirst]; rfl
      closedByCaller_iff := h.closedByCaller_iff.trans hclose.symm
      course := h.course.still_running hphase rfl rfl hphase rfl }
  · have hheard : d.hear bytes = d.collect bytes := if_neg hends
    rw [hheard]
    refine ⟨h.options_eq, ?_, h.closedByCaller_iff.trans hclose.symm,
      h.course.still_running hphase rfl rfl hphase rfl⟩
    show d.complaint = _
    rw [hcomplaint]
    split
    · rename_i hcloses
      -- there was a complaint before, so these are not the first words
      cases hfirst : firstWords? learned with
      | none =>
        rw [if_pos hcloses, hfirst] at hcomplaint
        exact absurd ⟨h.options_eq ▸ hcloses, hcomplaint⟩ hends
      | some first => rw [hwords, hfirst, Option.some_or]
    · rfl

/-- A request for the end is taken. -/
theorem Follows.asked (h : Follows options learned d) (hphase : d.phase = .running) :
    Follows options (learned ++ [.closeRequest])
      { d with closedByCaller := true, killed := true } where
  options_eq := h.options_eq
  complaint_eq := by
    have hunseen := (h.course.of_running hphase).2.2.2
    have hwords : firstWords? (learned ++ [.closeRequest]) = (firstWords? learned).or none :=
      firstWords?_append_of_unseen hunseen _
    rw [hwords, Option.or_none, ← h.complaint_eq]
  closedByCaller_iff := by
    rw [mem_beforeExit_append_of_unseen (h.course.of_running hphase).2.2.2 rfl]
    simp
  course := h.course.still_running hphase rfl rfl hphase rfl

theorem Follows.turn {e : Event} (h : Follows options learned d) (hturn : Turn d e d') :
    Follows options (learned ++ [e]) d' := by
  cases hturn with
  | connected hphase =>
    obtain ⟨hpublished, hconnected, hrefused, hexit⟩ := h.course.of_connecting hphase
    obtain ⟨hwords, hclose⟩ := unmarked_append (e := .connected) rfl (by simp) learned
    refine h.of_alike ⟨rfl, rfl, rfl, rfl⟩ hwords hclose (.running rfl ?_ (by simp) ?_ ?_)
    · exact congrArg (ExecState.opened :: ·) hpublished
    · simpa using hrefused
    · rw [seenExit?_append, hexit]
      rfl
  | refused hphase error =>
    obtain ⟨hpublished, hconnected, hrefused, hexit⟩ := h.course.of_connecting hphase
    obtain ⟨hwords, hclose⟩ := unmarked_append (e := .refused error) rfl (by simp) learned
    have hthis : ∀ other, .refused other ∈ learned ++ [.refused error] ↔ other = error := by
      simp [hrefused]
    refine h.of_alike ⟨rfl, rfl, rfl, rfl⟩ hwords hclose
      (.refused rfl ?_ (by simpa using hconnected) hthis ?_)
    · exact congrArg (ExecState.failed error.message :: ·) hpublished
    · rw [seenExit?_append, hexit]
      rfl
  | @heard hphase bytes hbytes => exact h.heard hphase bytes
  | asked hphase hkilled => exact h.asked hphase
  | @exited hphase exit _ hfinishes =>
    obtain ⟨hpublished, hconnected, hrefused, hexit⟩ := h.course.of_running hphase
    obtain ⟨hwords, hclose⟩ := unmarked_append (e := .exited exit) rfl (by simp) learned
    refine h.of_alike hfinishes.alike hwords hclose
      (.of_finishes hfinishes hpublished (by simp [hconnected]) (by simpa using hrefused) ?_)
    rw [seenExit?_append, hexit]
    rfl
  | @past _ hopening exit _ hphase hfinishes =>
    obtain ⟨hpublished, hconnected, hrefused, hexit⟩ := h.course.of_past hphase
    refine h.of_alike hfinishes.alike (firstWords?_append_of_seen hexit e)
      (by rw [beforeExit_append_of_seen hexit])
      (.of_finishes hfinishes hpublished (List.mem_append_left _ hconnected) ?_ ?_)
    · exact fun error => mt (mem_append_of_opening hopening rfl learned).1 (hrefused error)
    · rw [seenExit?_append, hexit]
      rfl
  | aside hsilent halike hphase hpublished =>
    have hwords? : e.words? = none := by cases e <;> first | rfl | cases hsilent
    have hclose? : e ≠ .closeRequest := by rintro rfl; cases hsilent
    obtain ⟨hwords, hclose⟩ := unmarked_append hwords? hclose? learned
    exact h.of_alike halike hwords hclose (h.course.silent hsilent halike hphase hpublished)

/-- What is published stays published. -/
theorem Turn.published_suffix {e : Event} (h : Turn d e d') : d.published <:+ d'.published := by
  cases h with
  | connected | refused => exact List.suffix_cons _ _
  | @heard _ bytes =>
    have hsame : (d.hear bytes).published = d.published := by
      unfold hear
      dsimp only
      split <;> rfl
    rw [hsame]
  | asked => exact List.suffix_rfl
  | exited _ hfinishes | past _ _ hfinishes =>
    cases hfinishes with
    | later _ _ hpublished =>
      rw [hpublished]
    | now _ _ hpublished =>
      rw [hpublished]
      exact List.suffix_cons _ _
  | aside _ _ _ hpublished =>
    rw [hpublished]

/-- Whoever has seen the exit ends when the waits are over, one for each of the two streams. -/
theorem published_of_graces {exit : ExecExit} (h : d.phase.exit? = some exit) :
    ((d.on .graceOver).on .graceOver).published =
      .verdict d.complaint d.closedByCaller exit :: d.published := by
  cases hphase : d.phase with
  | draining exit' rest =>
    rw [hphase] at h
    cases h
    cases hcollecting : d.collecting with
    | true =>
      simp only [on, hphase, afterStderr, hcollecting, if_true]
      rfl
    | false =>
      simp only [on, hphase, afterStderr, hcollecting, Bool.false_eq_true, if_false]
      rfl
  | collecting exit' =>
    rw [hphase] at h
    cases h
    simp only [on, hphase]
    rfl
  | connecting | running | ended =>
    rw [hphase] at h
    cases h

/-- Once the exit was seen, the verdict is the last state at the latest when the waits are over. -/
theorem Follows.concluded (h : Follows options learned d) {exit : ExecExit}
    (hexit : seenExit? learned = some exit) :
    ((d.on .graceOver).on .graceOver).published =
      [.verdict d.complaint d.closedByCaller exit, .opened, .created] := by
  cases h.course with
  | connecting _ _ _ _ hunseen | refused _ _ _ _ hunseen | running _ _ _ _ hunseen =>
    rw [hunseen] at hexit
    cases hexit
  | past hphase hpublished _ _ hseen =>
    cases hseen.symm.trans hexit
    rw [published_of_graces hphase, hpublished]
  | ended hphase hpublished _ _ hseen =>
    cases hseen.symm.trans hexit
    simp only [on, hphase]
    exact hpublished

end Driver

/-! ### The published states -/

/-- The published states, the first one first, by which of `.connected`, `.refused` and an exit are
in `learned`. -/
inductive Published (options : ExecOptions) (learned : List Event) : List ExecState → Prop where
  | created (hconnected : .connected ∉ learned) (hrefused : ∀ error, .refused error ∉ learned) :
    Published options learned [.created]
  /-- The transport refused. -/
  | refused (hconnected : .connected ∉ learned) {error : ClusterError}
    (hrefused : ∀ other, .refused other ∈ learned ↔ other = error) :
    Published options learned [.created, .failed error.message]
  /-- The transport is connected. -/
  | opened (hconnected : .connected ∈ learned) (hrefused : ∀ error, .refused error ∉ learned) :
    Published options learned [.created, .opened]
  /-- The exit was seen, and this is the only state it can end in. -/
  | ended (hconnected : .connected ∈ learned) (hrefused : ∀ error, .refused error ∉ learned)
    {exit : ExecExit} (hexit : seenExit? learned = some exit) {last : ExecState}
    (hlast : ∀ state, Ending options learned exit state ↔ state = last) :
    Published options learned [.created, .opened, last]

theorem Published.of_refused {options : ExecOptions} {learned : List Event}
    {published : List ExecState} (h : Published options learned published) {error : ClusterError}
    (herror : .refused error ∈ learned) : published = [.created, .failed error.message] := by
  cases h with
  | created _ hrefused | opened _ hrefused | ended _ hrefused => exact absurd herror (hrefused _)
  | refused _ hrefused => rw [(hrefused error).1 herror]

theorem Published.nothing_after {options : ExecOptions} {learned : List Event}
    {published front back : List ExecState} {state : ExecState}
    (h : Published options learned published) (hsplit : published = front ++ state :: back)
    (hterminal : state.isTerminal = true) : back = [] := by
  by_contra hback
  have hmem : state ∈ published.dropLast := by
    rw [hsplit, List.dropLast_append_of_ne_nil (List.cons_ne_nil _ _),
      List.dropLast_cons_of_ne_nil hback]
    exact List.mem_append_right _ List.mem_cons_self
  have hearly : state = .created ∨ state = .opened := by
    cases h with
    | created => cases hmem
    | refused | opened => exact .inl (List.mem_singleton.1 hmem)
    | ended => simpa using hmem
  rcases hearly with rfl | rfl <;> cases hterminal

namespace Driver

theorem Follows.published {options : ExecOptions} {learned : List Event} {d : Driver}
    (h : Follows options learned d) : Published options learned d.published.reverse := by
  cases h.course with
  | connecting _ hpublished hconnected hrefused =>
    rw [hpublished]
    exact .created hconnected hrefused
  | refused _ hpublished hconnected hrefused =>
    rw [hpublished]
    exact .refused hconnected hrefused
  | running _ hpublished hconnected hrefused | past _ hpublished hconnected hrefused =>
    rw [hpublished]
    exact .opened hconnected hrefused
  | ended _ hpublished hconnected hrefused hexit =>
    rw [hpublished]
    exact .ended hconnected hrefused hexit (h.ending_iff _)

end Driver

namespace System

open Driver

/-- A step leaves the driver alone, or the driver learns something that there was to learn. -/
theorem driver_step (x : System) (deed : Deed) :
    ((x.step deed).driver = x.driver ∧ (x.step deed).learned = x.learned) ∨
      ∃ e, deed = .learn e ∧ x.ready e = true ∧ (x.step deed).driver = x.driver.on e ∧
        (x.step deed).learned = x.learned ++ [e] := by
  cases hpossible : x.possible deed with
  | false =>
    rw [step_of_not hpossible]
    exact .inl ⟨rfl, rfl⟩
  | true =>
    rw [step_of_possible hpossible]
    simp only [learned, List.filterMap_append]
    cases deed with
    | learn e => exact .inr ⟨e, rfl, hpossible, rfl, rfl⟩
    | close | drop | offer | report => exact .inl ⟨rfl, List.append_nil _⟩

theorem follows_step {options : ExecOptions} (x : System) (deed : Deed)
    (h : Follows options x.learned x.driver) :
    Follows options (x.step deed).learned (x.step deed).driver := by
  obtain ⟨hdriver, hlearned⟩ | ⟨e, -, hready, hdriver, hlearned⟩ := x.driver_step deed
  · rwa [hdriver, hlearned]
  · rw [hdriver, hlearned]
    exact h.turn (turn_of_ready hready)

/-- The marks of a driver are what it has learned, in every run. -/
theorem follows_run (options : ExecOptions) (deeds : List Deed) :
    Follows options ((start options).run deeds).learned ((start options).run deeds).driver :=
  run_induction follows_step (follows_start options) deeds

theorem published_grows_step (x : System) (deed : Deed) :
    x.published <+: (x.step deed).published := by
  refine List.reverse_prefix.2 ?_
  obtain ⟨hdriver, -⟩ | ⟨e, -, hready, hdriver, -⟩ := x.driver_step deed
  · rw [hdriver]
  · rw [hdriver]
    exact (turn_of_ready hready).published_suffix

theorem published_grows_run (x : System) (deeds : List Deed) :
    x.published <+: (x.run deeds).published :=
  run_induction (P := (x.published <+: published ·))
    (fun y deed h => h.trans (published_grows_step y deed)) List.prefix_rfl deeds

theorem driver_graceOver (x : System) :
    (x.step (.learn .graceOver)).driver = x.driver.on .graceOver := by
  cases hready : x.ready .graceOver with
  | true => rw [step_of_possible (show x.possible (.learn .graceOver) = true from hready)]; rfl
  | false =>
    rw [step_of_not (show x.possible (.learn .graceOver) = false from hready)]
    cases hphase : x.driver.phase with
    | connecting | running | ended => simp only [on, hphase]
    | draining | collecting => simp [ready, hphase, Phase.exit?] at hready

/-- Nothing is published after a last state, whatever happens later. -/
theorem published_final (options : ExecOptions) (deeds more : List Deed)
    {front back : List ExecState} {state : ExecState}
    (hsplit : ((start options).run deeds).published = front ++ state :: back)
    (hterminal : state.isTerminal = true) :
    back = [] ∧
      (((start options).run deeds).run more).published = ((start options).run deeds).published := by
  obtain ⟨new, hnew⟩ := ((start options).run deeds).published_grows_run more
  have hrun : ((start options).run deeds).run more = (start options).run (deeds ++ more) :=
    (List.foldl_append ..).symm
  have hlater : Published options (((start options).run deeds).run more).learned
      (((start options).run deeds).run more).published := by
    rw [hrun]
    exact (follows_run options _).published
  have hnothing : back ++ new = [] :=
    hlater.nothing_after (by rw [← hnew, hsplit, List.append_assoc, List.cons_append]) hterminal
  obtain ⟨hback, rfl⟩ := List.append_eq_nil_iff.1 hnothing
  exact ⟨hback, by rw [← hnew, List.append_nil]⟩

/-- In every run the published states are those that what was learned leaves, in its order; what is
published stays, and a last state stays the last one.  Once the exit was seen, the end of the waits
is all it takes until the last state is published. -/
theorem published_run (options : ExecOptions) (deeds more : List Deed) :
    let x := (start options).run deeds
    Published options x.learned x.published ∧
      (∀ error, .refused error ∈ x.learned →
        x.published = [.created, .failed error.message]) ∧
      x.published <+: (x.run more).published ∧
      (∀ front state back, x.published = front ++ state :: back → state.isTerminal = true →
        back = [] ∧ (x.run more).published = x.published) ∧
      ∀ exit, seenExit? x.learned = some exit →
        ∃ last, (x.run [.learn .graceOver, .learn .graceOver]).published =
            [.created, .opened, last] ∧
          ∀ state, Ending options x.learned exit state ↔ state = last := by
  intro x
  have hfollows : Follows options x.learned x.driver := follows_run options deeds
  refine ⟨hfollows.published, fun error => hfollows.published.of_refused,
    x.published_grows_run more, fun front state back => published_final options deeds more,
    fun exit hexit => ⟨.verdict x.driver.complaint x.driver.closedByCaller exit, ?_,
      hfollows.ending_iff exit⟩⟩
  have hdriver : (x.run [.learn .graceOver, .learn .graceOver]).driver =
      (x.driver.on .graceOver).on .graceOver := by
    simp only [run_cons, run_nil, driver_graceOver]
  rw [published, hdriver, hfollows.concluded hexit]
  rfl

/-- The first words on the error stream count, although the caller asked for the end before. -/
example : ((start { closeOnStderr := true }).run [.close, .learn .connected, .learn .closeRequest,
    .offer (.bytes [79, 104] (by decide)), .learn (.stderr [79, 104]), .report (.code 0),
    .learn (.exited (.code 0)), .learn .graceOver]).published =
      [.created, .opened, .failed "remote command failed: Oh"] := by
  decide +kernel

end System

end BrowserGrid.Exec
