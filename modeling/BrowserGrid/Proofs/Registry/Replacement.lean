import BrowserGrid.Proofs.Registry.Course
import Mathlib.Data.List.Induction

/-!
# What becomes of a proxy that is replaced

A registration that replaces a proxy tears the old one down first, unless the new one stands for the
same resource; then it waits for the hook of the new one.  `Registration` lists how far it can have
come, and what it has torn down by then.  Once it has answered, somebody looks after the resource of
the old proxy exactly if it was not both spared and left alone by a hook that failed
(`System.replaced_attended_iff`); a registration that spares the old proxy and whose hook fails
tears down neither (`System.replaced_abandoned`).
-/

namespace BrowserGrid.Registry

variable {ω : Type} {s : Setting ω} {old new : Proxy ω}

/-! ### How far a registration has come -/

/-- What a registration tears down before the hook of the new proxy. -/
def tornFirst (old new : Proxy ω) : List (Proxy ω) := if keepsBacking old new then [] else [old]

/-- The views of an operation that registers `new` in the place of `old`, with a flag that says
whether the hook of `new` has failed. -/
inductive Registration (old new : Proxy ω) : (failed : Bool) → View ω → Prop where
  /-- It waits for the teardown of the old proxy. -/
  | clearing (hkeeps : keepsBacking old new = false) :
    Registration old new false ⟨some (.clearing old new), [old], []⟩
  /-- It waits for the hook of the new proxy. -/
  | preparing : Registration old new false ⟨some (.preparing new), tornFirst old new, []⟩
  /-- It has come too late and waits for the teardown of the new proxy. -/
  | discarding :
    Registration old new false ⟨some (.discarding new), tornFirst old new ++ [new], []⟩
  /-- The new proxy is registered. -/
  | live : Registration old new false ⟨none, tornFirst old new, [.added true]⟩
  /-- It came too late. -/
  | late : Registration old new false ⟨none, tornFirst old new ++ [new], [.added false]⟩
  /-- The hook of the new proxy failed. -/
  | unprepared : Registration old new true ⟨none, tornFirst old new, [.added false]⟩
  /-- Its caller went away before it was over. -/
  | gone (torn : List (Proxy ω)) : Registration old new false ⟨none, torn, []⟩

namespace Registration

variable {failed : Bool} {v : View ω}

/-- The first section of a registration removes the proxy that has the identity. -/
theorem stage_replaced {r : Registry ω} (hrunning : r.stopped = false) {id : ProxyId}
    (hfree : id ∉ r.registering) {e : Entry ω} (hlive : r.live.get? id = some e) :
    ∃ out r', r.stage id = (.staged (some out), r') ∧ out.proxy = e.proxy := by
  unfold stage
  rw [if_neg (by simp [hrunning]), if_neg hfree]
  unfold removeProxy
  dsimp only
  rw [hlive]
  exact ⟨_, _, rfl, rfl⟩

/-- What the first section of a registration leads to. -/
theorem start {r : Registry ω} (hrunning : r.stopped = false) (hfree : new.id ∉ r.registering)
    {e : Entry ω} (hlive : r.live.get? new.id = some e) (callers : Callers) (memory : ω) :
    Registration e.proxy new false ((⟨none, [], []⟩ : View ω).after
      ((Operation.add new).start s callers r memory).next) := by
  obtain ⟨out, r', hout, hproxy⟩ := stage_replaced hrunning hfree hlive
  unfold Operation.start
  dsimp only
  rw [hout]
  dsimp only
  rw [hproxy]
  cases hkeeps : keepsBacking e.proxy new with
  | true =>
    have htorn : tornFirst e.proxy new = [] := if_pos hkeeps
    have hpreparing : Registration e.proxy new false
        ⟨some (.preparing new), tornFirst e.proxy new, []⟩ := preparing
    rw [htorn] at hpreparing
    exact hpreparing
  | false => exact clearing hkeeps

theorem resume (h : Registration old new failed v) {call : Call ω} (hcall : v.call = some call)
    (r : Registry ω) (memory : ω) (prepared : Bool) :
    Registration old new (failed || (!prepared && call.preparation?.isSome))
      (v.after (call.resume r memory prepared).next) := by
  cases h with
  | clearing hkeeps =>
    obtain rfl := Option.some.inj hcall
    have htorn : tornFirst old new = [old] := if_neg (by simp [hkeeps])
    have hpreparing : Registration old new false
        ⟨some (.preparing new), tornFirst old new, []⟩ := preparing
    rw [htorn] at hpreparing
    cases prepared <;> exact hpreparing
  | preparing =>
    obtain rfl := Option.some.inj hcall
    cases prepared with
    | false => exact unprepared
    | true =>
      cases hstopped : r.stopped with
      | true =>
        have hnext : ((Call.preparing new).resume r memory true).next =
            .waits (.discarding new) := by
          simp [Call.resume, promote, hstopped]
        rw [hnext]
        exact discarding
      | false =>
        have hnext : ((Call.preparing new).resume r memory true).next =
            .answers (.added true) := by
          simp [Call.resume, promote, hstopped]
        rw [hnext]
        exact live
  | discarding =>
    obtain rfl := Option.some.inj hcall
    cases prepared <;> exact late
  | live | late | unprepared | gone => cases hcall

theorem abandon (h : Registration old new failed v) : Registration old new failed v.abandon := by
  cases h with
  | clearing | preparing | discarding => exact gone _
  | live => exact live
  | late => exact late
  | unprepared => exact unprepared
  | gone torn => exact gone torn

end Registration

theorem preparation?_isSome {call : Call ω} :
    call.preparation?.isSome = true ↔ ∃ p, call = .preparing p := by
  cases call <;> simp [Call.preparation?]

namespace System

/-! ### The hook of a registration -/

/-- The hook that a registration waits for fails in the course of a run. -/
def HookFails (s : Setting ω) (σ : System ω) (ticket : Nat) (actions : List (Action ω)) : Prop :=
  ∃ first rest p, actions = first ++ .resume ticket false :: rest ∧
    ((σ.run s first).view ticket).call = some (.preparing p)

theorem not_hookFails_nil (s : Setting ω) (σ : System ω) (ticket : Nat) :
    ¬HookFails s σ ticket [] := by
  rintro ⟨first, rest, p, h, -⟩
  exact absurd h.symm (by simp)

theorem hookFails_snoc (s : Setting ω) (σ : System ω) (ticket : Nat) (actions : List (Action ω))
    (a : Action ω) : HookFails s σ ticket (actions ++ [a]) ↔ HookFails s σ ticket actions ∨
      a = .resume ticket false ∧
        ∃ p, ((σ.run s actions).view ticket).call = some (.preparing p) := by
  constructor
  · rintro ⟨first, rest, p, h, hcall⟩
    rcases List.eq_nil_or_concat rest with rfl | ⟨rest, b, rfl⟩
    · obtain ⟨rfl, ha⟩ := List.append_inj' h rfl
      exact .inr ⟨List.singleton_inj.1 ha, p, hcall⟩
    · rw [List.concat_eq_append, ← List.cons_append, ← List.append_assoc] at h
      obtain ⟨rfl, -⟩ := List.append_inj' h rfl
      exact .inl ⟨first, rest, p, rfl, hcall⟩
  · rintro (⟨first, rest, p, rfl, hcall⟩ | ⟨rfl, p, hcall⟩)
    · exact ⟨first, rest ++ [a], p, by simp, hcall⟩
    · exact ⟨actions, [], p, rfl, hcall⟩

/-- How far a registration comes in a run. -/
theorem registration_run {σ : System ω} {ticket : Nat} (hticket : ticket < σ.begun)
    (h : Registration old new false (σ.view ticket)) (actions : List (Action ω)) :
    ∃ failed, Registration old new failed ((σ.run s actions).view ticket) ∧
      (failed = true ↔ HookFails s σ ticket actions) := by
  -- only the last step matters to whether the hook has failed by then
  induction actions using List.reverseRecOn with
  | nil => exact ⟨false, h, by simp [not_hookFails_nil]⟩
  | append_singleton actions a ih =>
    obtain ⟨failed, hreg, hfailed⟩ := ih
    have hissued := Nat.lt_of_lt_of_le hticket (begun_le_run (s := s) σ actions)
    rw [run_append, hookFails_snoc, ← hfailed]
    cases step_seen (s := s) hissued a with
    | same hview hidle =>
      have hno : ¬(a = .resume ticket false ∧
          ∃ p, ((σ.run s actions).view ticket).call = some (.preparing p)) := by
        rintro ⟨ha, p, hp⟩
        rw [hidle false ha] at hp
        cases hp
      refine ⟨failed, ?_, by simp [hno]⟩
      rw [run_cons, run_nil, hview]
      exact hreg
    | resumed call hcall prepared ha hview =>
      refine ⟨failed || (!prepared && call.preparation?.isSome), ?_,
        Bool.or_eq_true_iff.trans (or_congr_right ?_)⟩
      · rw [run_cons, run_nil, hview]
        exact hreg.resume hcall _ _ prepared
      · rw [ha, hcall, Bool.and_eq_true, Action.resume.injEq, preparation?_isSome]
        simp
    | abandoned ha hview =>
      refine ⟨failed, ?_, by simp [ha]⟩
      rw [run_cons, run_nil, hview]
      exact hreg.abandon

/-! ### What is torn down -/

theorem mem_answers {σ : System ω} {ticket : Nat} {op : Operation ω} {answer : Answer}
    (h : .answered ticket op answer ∈ σ.history) : answer ∈ (σ.view ticket).answers :=
  List.mem_filterMap.2 ⟨_, h, if_pos rfl⟩

/-- A registration that has replaced a proxy is over.  The old proxy was torn down, or its resource
went to the new one, which is registered, or the new one was torn down, unless the old one was
spared for a new one whose hook failed. -/
theorem replaced_attended_iff (memory : ω) (before after : List (Action ω)) {σ τ : System ω}
    (hσ : (initial memory).run s before = σ) (hrunning : σ.registry.stopped = false)
    (hfree : new.id ∉ σ.registry.registering) {e : Entry ω}
    (hlive : σ.registry.live.get? new.id = some e) (d : Departures)
    (hτ : (σ.step s (.begin (.add new) d)).run s after = τ) {live : Bool}
    (hover : .answered σ.begun (.add new) (.added live) ∈ τ.history) :
    (e.proxy ∈ τ.tornBy σ.begun ∨ keepsBacking e.proxy new = true ∧ live = true ∨
        new ∈ τ.tornBy σ.begun) ↔
      ¬(keepsBacking e.proxy new = true ∧
        HookFails s (σ.step s (.begin (.add new) d)) σ.begun after) := by
  have hdated : σ.Dated := hσ ▸ dated_run memory before
  have hstart : Registration e.proxy new false
      ((σ.step s (.begin (.add new) d)).view σ.begun) := by
    rw [hdated.view_afterBegin]
    exact .start hrunning hfree hlive _ _
  obtain ⟨failed, hreg, hfailed⟩ := registration_run (s := s) (Nat.lt_succ_self _) hstart after
  rw [hτ] at hreg
  have hanswer := mem_answers hover
  have htorn : τ.tornBy σ.begun = (τ.view σ.begun).torn := rfl
  rw [htorn, ← hfailed]
  generalize τ.view σ.begun = v at hreg hanswer
  -- a registration that has answered is over in one of three ways
  cases hreg with
  | clearing | preparing | discarding | gone => exact absurd hanswer List.not_mem_nil
  | live =>
    have hanswer : live = true := by simpa using hanswer
    cases hkeeps : keepsBacking e.proxy new <;> simp [tornFirst, hkeeps, hanswer]
  | late =>
    cases hkeeps : keepsBacking e.proxy new <;> simp [tornFirst, hkeeps]
  | unprepared =>
    have hanswer : live = false := by simpa using hanswer
    cases hkeeps : keepsBacking e.proxy new <;> simp [tornFirst, hkeeps, hanswer]

/-- The proxy of a pod, told from others of its identity by a number. -/
def podProxy (serial : Nat) : Proxy Unit :=
  { judgingProxy "node:4444" (.accepted, ·) with serial, backing := some "pod-1" }

/-- A system in which the proxy of a pod is registered. -/
def podSystem : System Unit :=
  (initial ()).run countingSetting [.begin (.add (podProxy 0)) {}, .resume 0 true]

/-- The system after another proxy of the pod has been registered in its place, or not, as its hook
decides. -/
def afterReplacement (prepared : Bool) : System Unit :=
  (podSystem.step countingSetting (.begin (.add (podProxy 1)) {})).run countingSetting
    [.resume 1 prepared]

theorem replaced_attended_iff_shared :
    podSystem.registry.live.get? "node:4444" = some (.fresh (podProxy 0)) ∧
      Event.answered 1 (.add (podProxy 1)) (.added true) ∈ (afterReplacement true).history ∧
      keepsBacking (podProxy 0) (podProxy 1) = true ∧
      ¬HookFails countingSetting (podSystem.step countingSetting (.begin (.add (podProxy 1)) {})) 1
        [.resume 1 true] := by
  have hlive : podSystem.registry.live.get? "node:4444" = some (.fresh (podProxy 0)) := rfl
  have hover : Event.answered 1 (.add (podProxy 1)) (.added true) ∈
      (afterReplacement true).history := List.mem_of_getElem? (i := 6) rfl
  have hiff := replaced_attended_iff () [.begin (.add (podProxy 0)) {}, .resume 0 true]
    [.resume 1 true] (rfl : _ = podSystem) rfl (by decide) hlive {}
    (rfl : _ = afterReplacement true) hover
  exact ⟨hlive, hover, rfl, fun hfails => hiff.1 (.inr (.inl ⟨rfl, rfl⟩)) ⟨rfl, hfails⟩⟩

/-- A proxy is replaced by another of its pod whose hook fails: nothing is registered, nothing is
under way, and no teardown was ever called. -/
theorem replaced_abandoned :
    (podSystem.registry.live.get? "node:4444").map (·.proxy.backing) = some (some "pod-1") ∧
      Event.answered podSystem.begun (.add (podProxy 1)) (.added false) ∈
        (afterReplacement false).history ∧
      (afterReplacement false).calls.length = 0 ∧
      (afterReplacement false).registry.live.size = 0 ∧
      ∀ ticket, (afterReplacement false).tornBy ticket = [] := by
  have hhistory : (afterReplacement false).history =
      [.paused 0 (.add (podProxy 0)) (.preparing (podProxy 0)),
        .reported 0 (.add (podProxy 0)) .changed, .answered 0 (.add (podProxy 0)) (.added true),
        .reported 1 (.add (podProxy 1)) .changed,
        .paused 1 (.add (podProxy 1)) (.preparing (podProxy 1)),
        .answered 1 (.add (podProxy 1)) (.added false)] := rfl
  refine ⟨rfl, List.mem_of_getElem? (i := 5) rfl, rfl, rfl, fun ticket => ?_⟩
  -- both registrations wait for hooks only
  rw [tornBy, List.flatMap_eq_nil_iff]
  intro call hcall
  obtain ⟨e, he, hpause⟩ := List.mem_filterMap.1 hcall
  rw [hhistory] at he
  simp only [List.mem_cons, List.not_mem_nil, or_false] at he
  rcases he with rfl | rfl | rfl | rfl | rfl | rfl <;> simp [Event.pause?] at hpause <;>
    rw [← hpause.2] <;> rfl

end System

end BrowserGrid.Registry
