import BrowserGrid.Proofs.Registry.Orders
import Mathlib.Data.List.Induction
import Mathlib.Data.List.Infix

/-!
# Starting nodes

When a sweep is over, each of its orders becomes a task of its own, which calls the provisioner and,
if that fails, reports the failure in a section of the registry.  `Provisioning` is a registry
together with these tasks; a `Deed` is a step of the registry or of one task, and the lists of deeds
are all the ways in which they can go on side by side, whatever the provisioner answers and however
long it takes.

A task is open until its failure has been reported, and a request has one open task at most, or an
order on its way, or an entry in the queue without a flag (`Balanced`).  So the calls of the
provisioner for a request stand one after the other, each but the last of them a failure, and a
sweep that asks for another finds all earlier ones reported (`Founded`).

* `Provisioning.disciplined_run`: both together.
-/

namespace BrowserGrid.Registry

variable {ω : Type} {s : Setting ω}

/-! ### Tasks -/

/-- What happens to a call of the provisioner. -/
inductive CallEvent where
  | started
  | returned (succeeded : Bool)
  deriving DecidableEq

/-- How far a task has come. -/
inductive Stage where
  /-- It has not called the provisioner yet. -/
  | due
  /-- The provisioner has been called and has not answered. -/
  | running
  /-- The provisioner has failed, and the task waits for the lock to report it. -/
  | failed
  /-- The task is over; whether the provisioner succeeded. -/
  | closed (succeeded : Bool)
  deriving DecidableEq

/-- What the call of a task has left behind, unless it is a failure. -/
def Stage.trail : Stage → List CallEvent
  | .due | .failed | .closed false => []
  | .running => [.started]
  | .closed true => [.started, .returned true]

/-- A task that has a node started. -/
structure Errand where
  order : Order
  stage : Stage := .due
  deriving DecidableEq

/-- A registry and the tasks that have nodes started. -/
structure Provisioning (ω : Type) where
  system : System ω
  /-- The tasks, those that are over included. -/
  errands : List Errand := []
  /-- The calls of the provisioner, with the requests that they are for. -/
  log : List (RequestId × CallEvent) := []

/-- What can happen. -/
inductive Deed (ω : Type) where
  /-- Something happens to the registry, other than the report of a failure. -/
  | act (a : Action ω)
  /-- A task calls the provisioner. -/
  | begin (n : Nat)
  /-- The provisioner answers a task. -/
  | finish (n : Nat) (succeeded : Bool)
  /-- A task reports a failure. -/
  | report (n : Nat)

namespace Provisioning

/-- Nothing has happened. -/
def initial (memory : ω) : Provisioning ω := { system := .initial memory }

/-- A task has come further. -/
def advance (ρ : Provisioning ω) (n : Nat) (stage : Stage) : Provisioning ω :=
  { ρ with errands := ρ.errands.modify n ({ · with stage }) }

/-- Something has happened to a call of the provisioner. -/
def note (ρ : Provisioning ω) (id : RequestId) (event : CallEvent) : Provisioning ω :=
  { ρ with log := ρ.log ++ [(id, event)] }

/-- The tasks for the orders that some events give out. -/
def sent (events : List (Event ω)) : List Errand :=
  (events.flatMap Event.placed).map fun order => { order }

/-- Something happens to the registry; a sweep that is over sends its tasks. -/
def act (s : Setting ω) (ρ : Provisioning ω) (a : Action ω) : Provisioning ω :=
  let system := ρ.system.step s a
  { ρ with
    system
    errands := ρ.errands ++ sent (system.history.drop ρ.system.history.length) }

/-- A task calls the provisioner. -/
def begin (ρ : Provisioning ω) (n : Nat) : Provisioning ω :=
  match ρ.errands[n]? with
  | some ⟨order, .due⟩ => (ρ.advance n .running).note order.request.id .started
  | _ => ρ

/-- The provisioner answers a task. -/
def finish (ρ : Provisioning ω) (n : Nat) (succeeded : Bool) : Provisioning ω :=
  match ρ.errands[n]? with
  | some ⟨order, .running⟩ =>
    (ρ.advance n (if succeeded then .closed true else .failed)).note order.request.id
      (.returned succeeded)
  | _ => ρ

/-- A task reports a failure. -/
def report (s : Setting ω) (ρ : Provisioning ω) (n : Nat) : Provisioning ω :=
  match ρ.errands[n]? with
  | some ⟨order, .failed⟩ =>
    { ρ.advance n (.closed false) with
      system := ρ.system.step s (.provisioningFailed order.request.id) }
  | _ => ρ

/-- Let something happen; a deed that is not possible changes nothing. -/
def step (s : Setting ω) (ρ : Provisioning ω) : Deed ω → Provisioning ω
  | .act (.provisioningFailed _) => ρ
  | .act a => ρ.act s a
  | .begin n => ρ.begin n
  | .finish n succeeded => ρ.finish n succeeded
  | .report n => ρ.report s n

/-- Let one thing happen after the other. -/
def run (s : Setting ω) (ρ : Provisioning ω) (deeds : List (Deed ω)) : Provisioning ω :=
  deeds.foldl (step s) ρ

/-- What has happened to the calls of the provisioner for a request. -/
def calls (ρ : Provisioning ω) (id : RequestId) : List CallEvent :=
  ρ.log.filterMap fun (other, event) => if other = id then some event else none

/-! ### What a deed does -/

/-- The step from `ρ` by a deed, one constructor for each deed that is possible. -/
inductive Stepped (s : Setting ω) (ρ : Provisioning ω) : Deed ω → Provisioning ω → Prop where
  | idle {x : Deed ω} : Stepped s ρ x ρ
  | acted {a : Action ω} {events : List (Event ω)}
    (h : System.Ordered s ρ.system (ρ.system.step s a) a events) :
    Stepped s ρ (.act a)
      { ρ with system := ρ.system.step s a, errands := ρ.errands ++ sent events }
  | begun {n : Nat} {order : Order} (h : ρ.errands[n]? = some ⟨order, .due⟩) :
    Stepped s ρ (.begin n) ((ρ.advance n .running).note order.request.id .started)
  | finished {n : Nat} {order : Order} (h : ρ.errands[n]? = some ⟨order, .running⟩)
    (succeeded : Bool) :
    Stepped s ρ (.finish n succeeded)
      ((ρ.advance n (if succeeded then .closed true else .failed)).note order.request.id
        (.returned succeeded))
  | reported {n : Nat} {order : Order} (h : ρ.errands[n]? = some ⟨order, .failed⟩) :
    Stepped s ρ (.report n) { ρ.advance n (.closed false) with
      system := ρ.system.step s (.provisioningFailed order.request.id) }

theorem act_stepped (ρ : Provisioning ω) (hρ : ρ.system.Numbered) {a : Action ω}
    (ha : ∀ id, a ≠ .provisioningFailed id) : Stepped s ρ (.act a) (ρ.act s a) := by
  obtain ⟨events, h⟩ := System.orders_step (s := s) hρ ha
  have hact : ρ.act s a =
      { ρ with system := ρ.system.step s a, errands := ρ.errands ++ sent events } := by
    rw [act, h.history, List.drop_left]
  rw [hact]
  exact .acted h

theorem step_stepped (ρ : Provisioning ω) (hρ : ρ.system.Numbered) (x : Deed ω) :
    Stepped s ρ x (ρ.step s x) := by
  cases x with
  | act a =>
    cases a with
    | provisioningFailed id => exact .idle
    | submit | withdraw | activate | begin | resume | abandon | wait | receive | expire | giveUp
    | depart | remember => exact act_stepped ρ hρ fun _ h => nomatch h
  | begin n =>
    show Stepped s ρ _ (ρ.begin n)
    unfold begin
    split
    · exact .begun ‹_›
    · exact .idle
  | finish n succeeded =>
    show Stepped s ρ _ (ρ.finish n succeeded)
    unfold finish
    split
    · exact .finished ‹_› succeeded
    · exact .idle
  | report n =>
    show Stepped s ρ _ (ρ.report s n)
    unfold report
    split
    · exact .reported ‹_›
    · exact .idle

theorem run_append (ρ : Provisioning ω) (before after : List (Deed ω)) :
    ρ.run s (before ++ after) = (ρ.run s before).run s after :=
  List.foldl_append

theorem run_concat (ρ : Provisioning ω) (deeds : List (Deed ω)) (x : Deed ω) :
    ρ.run s (deeds ++ [x]) = (ρ.run s deeds).step s x := by
  rw [run_append]
  rfl

theorem Stepped.system_cases {ρ ρ' : Provisioning ω} {x : Deed ω} (h : Stepped s ρ x ρ') :
    ρ'.system = ρ.system ∨ ∃ a, ρ'.system = ρ.system.step s a := by
  cases h with
  | idle | begun | finished => exact .inl rfl
  | @acted a => exact .inr ⟨a, rfl⟩
  | @reported n order => exact .inr ⟨.provisioningFailed order.request.id, rfl⟩

/-- The registry goes its own way. -/
theorem exists_actions (memory : ω) (deeds : List (Deed ω)) :
    ∃ actions, ((initial memory).run s deeds).system = (System.initial memory).run s actions := by
  induction deeds using List.reverseRecOn with
  | nil => exact ⟨[], rfl⟩
  | append_singleton deeds x ih =>
    obtain ⟨actions, hsystem⟩ := ih
    have hnumbered : ((initial memory).run s deeds).system.Numbered := by
      rw [hsystem]
      exact (System.dated_run memory actions).numbered
    rw [run_concat]
    rcases (step_stepped (s := s) _ hnumbered x).system_cases with h | ⟨a, h⟩
    · exact ⟨actions, h.trans hsystem⟩
    · refine ⟨actions ++ [a], ?_⟩
      rw [h, hsystem, System.run_append]
      rfl

theorem numbered_run (memory : ω) (deeds : List (Deed ω)) :
    ((initial memory).run s deeds).system.Numbered := by
  obtain ⟨actions, hsystem⟩ := exists_actions (s := s) memory deeds
  rw [hsystem]
  exact (System.dated_run memory actions).numbered

/-- Requests that have different identities after a deed had them before it. -/
theorem Stepped.fresh {ρ ρ' : Provisioning ω} {x : Deed ω} (h : Stepped s ρ x ρ')
    (hfresh : ρ'.system.FreshRequests) : ρ.system.FreshRequests := by
  rcases h.system_cases with h | ⟨a, h⟩
  · exact h ▸ hfresh
  · rw [h] at hfresh
    obtain ⟨events, hhistory⟩ := (System.step_moved (s := s) ρ.system a).exists_history
    exact hfresh.of_history hhistory

/-! ### Open tasks -/

/-- How many tasks for a request are open: no failure of theirs has been reported. -/
def openTasks (errands : List Errand) (id : RequestId) : Nat :=
  errands.countP fun e => e.order.request.id = id && e.stage ≠ .closed false

/-- What the calls of the tasks for a request have left behind, unless they are failures. -/
def trails (errands : List Errand) (id : RequestId) : List CallEvent :=
  (errands.filter (·.order.request.id = id)).flatMap (·.stage.trail)

theorem openTasks_append (errands more : List Errand) (id : RequestId) :
    openTasks (errands ++ more) id = openTasks errands id + openTasks more id :=
  List.countP_append

theorem openTasks_cons (e : Errand) (errands : List Errand) (id : RequestId) :
    openTasks (e :: errands) id =
      (if e.order.request.id = id ∧ e.stage ≠ .closed false then 1 else 0) +
        openTasks errands id := by
  rw [openTasks, List.countP_cons, ← openTasks, Nat.add_comm]
  simp

theorem openTasks_sent (events : List (Event ω)) (id : RequestId) :
    openTasks (sent events) id = ordersFor (events.flatMap Event.placed) id := by
  rw [sent, openTasks, List.countP_map, ordersFor]
  refine List.countP_congr fun order _ => ?_
  simp

theorem trails_append (errands more : List Errand) (id : RequestId) :
    trails (errands ++ more) id = trails errands id ++ trails more id := by
  rw [trails, List.filter_append, List.flatMap_append, trails, trails]

theorem trails_cons (e : Errand) (errands : List Errand) (id : RequestId) :
    trails (e :: errands) id =
      (if e.order.request.id = id then e.stage.trail else []) ++ trails errands id := by
  rw [trails, List.filter_cons]
  by_cases h : e.order.request.id = id
  · simp [h, trails]
  · simp [h, trails]

theorem trails_sent (events : List (Event ω)) (id : RequestId) : trails (sent events) id = [] := by
  refine List.flatMap_eq_nil_iff.2 fun e he => ?_
  obtain ⟨order, -, rfl⟩ := List.mem_map.1 (List.mem_of_mem_filter he)
  rfl

/-- Tasks that are not open have left nothing but failures behind. -/
theorem trails_eq_nil {errands : List Errand} {id : RequestId} (h : openTasks errands id = 0) :
    trails errands id = [] := by
  refine List.flatMap_eq_nil_iff.2 fun e he => ?_
  obtain ⟨he, hid⟩ := List.mem_filter.1 he
  have hover := List.countP_eq_zero.1 h e he
  simp only [decide_eq_true_eq] at hid
  simp only [hid, decide_true, Bool.true_and, decide_eq_true_eq, not_not] at hover
  rw [hover]
  rfl

/-- A task that has come further, between those that have not. -/
theorem advance_split {ρ : Provisioning ω} {n : Nat} {e : Errand} (h : ρ.errands[n]? = some e)
    (stage : Stage) : ∃ front back, ρ.errands = front ++ e :: back ∧
      (ρ.advance n stage).errands = front ++ { e with stage } :: back := by
  obtain ⟨hlt, hget⟩ := List.getElem?_eq_some_iff.1 h
  refine ⟨ρ.errands.take n, ρ.errands.drop (n + 1), ?_, ?_⟩
  · rw [← hget, List.getElem_cons_drop, List.take_append_drop]
  · rw [advance, List.modify_eq_take_cons_drop hlt, hget]

/-- The only open task for a request has come further. -/
theorem advance_open {ρ : Provisioning ω} {n : Nat} {e : Errand} (h : ρ.errands[n]? = some e)
    (hopen : e.stage ≠ .closed false) {id : RequestId} (hid : e.order.request.id = id)
    (hle : openTasks ρ.errands id ≤ 1) (stage : Stage) :
    openTasks ρ.errands id = 1 ∧ trails ρ.errands id = e.stage.trail ∧
      openTasks (ρ.advance n stage).errands id = (if stage = .closed false then 0 else 1) ∧
      trails (ρ.advance n stage).errands id = stage.trail := by
  obtain ⟨front, back, hold, hnew⟩ := advance_split h stage
  rw [hold, openTasks_append, openTasks_cons, if_pos ⟨hid, hopen⟩] at hle
  have hfront : openTasks front id = 0 := by omega
  have hback : openTasks back id = 0 := by omega
  rw [hold, hnew]
  simp only [openTasks_append, openTasks_cons, trails_append, trails_cons, trails_eq_nil hfront,
    trails_eq_nil hback, hfront, hback, hopen, hid, ne_eq, not_false_eq_true, and_self, if_true,
    true_and, List.nil_append, List.append_nil, Nat.zero_add, Nat.add_zero, ite_not]

/-- It does not matter to other requests that a task has come further. -/
theorem advance_other {ρ : Provisioning ω} {n : Nat} {e : Errand} (h : ρ.errands[n]? = some e)
    (stage : Stage) {id : RequestId} (hid : e.order.request.id ≠ id) :
    openTasks (ρ.advance n stage).errands id = openTasks ρ.errands id ∧
      trails (ρ.advance n stage).errands id = trails ρ.errands id := by
  obtain ⟨front, back, hold, hnew⟩ := advance_split h stage
  rw [hold, hnew]
  simp only [openTasks_append, openTasks_cons, trails_append, trails_cons, hid, false_and,
    if_false, and_self]

/-! ### One open task at most -/

/-- So many failures, each before the next call. -/
def failures (k : Nat) : List CallEvent :=
  (List.replicate k [CallEvent.started, .returned false]).flatten

theorem failures_succ (k : Nat) :
    failures (k + 1) = failures k ++ [.started, .returned false] := by
  rw [failures, List.replicate_succ', List.flatten_append, ← failures, List.flatten_singleton]

/-- Whatever stands in the queue without a flag, is on its way or is an open task is covered by the
admissions of the request, and the calls for it are failures but for what the open task has left
behind. -/
structure Balanced (ρ : Provisioning ω) : Prop where
  orders : ∀ id, unflagged ρ.system.registry.pending id + ordersFor (carried ρ.system.calls) id +
    openTasks ρ.errands id ≤ ρ.system.admitted.count id
  calls : ∀ id, ∃ k, ρ.calls id = failures k ++ trails ρ.errands id

theorem Balanced.initial (memory : ω) : (Provisioning.initial memory).Balanced :=
  ⟨fun _ => Nat.le_refl _, fun _ => ⟨0, rfl⟩⟩

variable {ρ ρ' : Provisioning ω}

theorem Balanced.orders_le_one (hρ : ρ.Balanced) (hfresh : ρ.system.FreshRequests)
    (id : RequestId) : unflagged ρ.system.registry.pending id +
      ordersFor (carried ρ.system.calls) id + openTasks ρ.errands id ≤ 1 :=
  Nat.le_trans (hρ.orders id) (List.nodup_iff_count_le_one.1 hfresh id)

theorem calls_note (ρ : Provisioning ω) (other : RequestId) (event : CallEvent) (id : RequestId) :
    (ρ.note other event).calls id = ρ.calls id ++ if other = id then [event] else [] := by
  rw [calls, note, List.filterMap_append, ← calls]
  by_cases h : other = id <;> simp [h]

/-- A task calls the provisioner, or the provisioner answers it. -/
theorem Balanced.note (hρ : ρ.Balanced) (hfresh : ρ.system.FreshRequests) {n : Nat} {e : Errand}
    (h : ρ.errands[n]? = some e) {stage : Stage} {event : CallEvent}
    (hopen : e.stage ≠ .closed false) (hstays : stage ≠ .closed false)
    (htrail : ∀ k, ∃ k', failures k ++ e.stage.trail ++ [event] = failures k' ++ stage.trail) :
    ((ρ.advance n stage).note e.order.request.id event).Balanced := by
  have hle := hρ.orders_le_one hfresh e.order.request.id
  obtain ⟨hone, hold, hnew, htrails⟩ := advance_open h hopen rfl (by omega) stage
  rw [if_neg hstays] at hnew
  constructor
  · intro id
    refine Nat.le_trans (Nat.add_le_add_left (Nat.le_of_eq ?_) _) (hρ.orders id)
    show openTasks (ρ.advance n stage).errands id = openTasks ρ.errands id
    by_cases hid : e.order.request.id = id
    · rw [← hid, hnew, hone]
    · exact (advance_other h stage hid).1
  · intro id
    obtain ⟨k, hk⟩ := hρ.calls id
    rw [calls_note]
    show ∃ k, ρ.calls id ++ _ = failures k ++ trails (ρ.advance n stage).errands id
    by_cases hid : e.order.request.id = id
    · subst hid
      rw [if_pos rfl, hk, hold, htrails]
      exact htrail k
    · rw [if_neg hid, List.append_nil, hk, (advance_other h stage hid).2]
      exact ⟨k, rfl⟩

theorem unflagged_provisioningFailed (r : Registry ω) {id other : RequestId} (hne : id ≠ other) :
    unflagged (r.provisioningFailed id).pending other = unflagged r.pending other := by
  rw [Registry.provisioningFailed, unflagged, List.countP_map]
  refine List.countP_congr fun p _ => ?_
  rw [Function.comp_apply]
  split
  · rename_i hid
    simp [hid, hne]
  · rfl

/-- A failure is reported. -/
theorem Balanced.report (hρ : ρ.Balanced) (hfresh : ρ.system.FreshRequests)
    (hconserved : ρ.system.Conserved) {n : Nat} {order : Order}
    (h : ρ.errands[n]? = some ⟨order, .failed⟩) :
    ({ ρ.advance n (.closed false) with
        system := ρ.system.step s (.provisioningFailed order.request.id) } :
      Provisioning ω).Balanced := by
  have hle := hρ.orders_le_one hfresh order.request.id
  obtain ⟨hone, hold, hnew, htrails⟩ :=
    advance_open h (fun h => nomatch h) (Eq.refl order.request.id) (by omega) (.closed false)
  constructor
  · intro id
    have hbefore := hρ.orders id
    by_cases hid : order.request.id = id
    · -- nothing was in the way of the task, so the entries of the queue are all that is left
      subst hid
      have hlength := hconserved.balance order.request.id
      rw [System.length_fates] at hlength
      have hqueued : queuedIn (ρ.system.registry.provisioningFailed order.request.id).pending
          order.request.id = queuedIn ρ.system.registry.pending order.request.id :=
        queuedIn_map (fun p => by split <;> rfl) _ _
      have hflags := unflagged_le_queuedIn
        (ρ.system.registry.provisioningFailed order.request.id).pending order.request.id
      rw [if_pos rfl] at hnew
      show unflagged (ρ.system.registry.provisioningFailed order.request.id).pending _ +
        ordersFor (carried ρ.system.calls) _ + openTasks (ρ.advance n (.closed false)).errands _ ≤
          ρ.system.admitted.count _
      rw [hone] at hle
      omega
    · show unflagged (ρ.system.registry.provisioningFailed order.request.id).pending id +
        ordersFor (carried ρ.system.calls) id + openTasks (ρ.advance n (.closed false)).errands id ≤
          ρ.system.admitted.count id
      rw [unflagged_provisioningFailed _ hid, (advance_other h _ hid).1]
      exact hbefore
  · intro id
    obtain ⟨k, hk⟩ := hρ.calls id
    refine ⟨k, hk.trans (congrArg _ ?_)⟩
    show trails ρ.errands id = trails (ρ.advance n (.closed false)).errands id
    by_cases hid : order.request.id = id
    · rw [← hid, hold, htrails]
      rfl
    · exact (advance_other h _ hid).2.symm

theorem Stepped.balanced {x : Deed ω} (h : Stepped s ρ x ρ') (hfresh : ρ'.system.FreshRequests)
    (hconserved : ρ.system.Conserved) (hρ : ρ.Balanced) : ρ'.Balanced := by
  have hfresh₀ := h.fresh hfresh
  cases h with
  | idle => exact hρ
  | @acted a events h =>
    constructor
    · intro id
      have hstep := h.balance id
      have hbefore := hρ.orders id
      show _ + openTasks (ρ.errands ++ sent events) id ≤ (ρ.system.step s a).admitted.count id
      rw [openTasks_append, openTasks_sent, System.admitted_append h.history, List.count_append]
      dsimp only
      omega
    · intro id
      obtain ⟨k, hk⟩ := hρ.calls id
      refine ⟨k, hk.trans ?_⟩
      show _ = _ ++ trails (ρ.errands ++ sent events) id
      rw [trails_append, trails_sent, List.append_nil]
  | @begun n order h =>
    refine hρ.note hfresh₀ h (fun h => nomatch h) (fun h => nomatch h) fun k => ⟨k, ?_⟩
    exact congrArg (· ++ [CallEvent.started]) (List.append_nil _)
  | @finished n order h succeeded =>
    cases succeeded with
    | true =>
      refine hρ.note hfresh₀ h (fun h => nomatch h) (fun h => nomatch h) fun k => ⟨k, ?_⟩
      exact List.append_assoc ..
    | false =>
      refine hρ.note hfresh₀ h (fun h => nomatch h) (fun h => nomatch h) fun k => ⟨k + 1, ?_⟩
      rw [failures_succ, List.append_assoc]
      exact (List.append_nil _).symm
  | reported h => exact hρ.report hfresh₀ hconserved h

theorem trails_of_le_one {errands : List Errand} {id : RequestId}
    (h : openTasks errands id ≤ 1) :
    trails errands id = [] ∨ trails errands id = [.started] ∨
      trails errands id = [.started, .returned true] := by
  induction errands with
  | nil => exact .inl rfl
  | cons e rest ih =>
    rw [openTasks_cons] at h
    rw [trails_cons]
    by_cases hopen : e.order.request.id = id ∧ e.stage ≠ .closed false
    · -- the other tasks for the request have left nothing behind
      rw [if_pos hopen] at h
      rw [if_pos hopen.1, trails_eq_nil (show openTasks rest id = 0 by omega), List.append_nil]
      cases hstage : e.stage with
      | due | failed => exact .inl rfl
      | running => exact .inr (.inl rfl)
      | closed succeeded => cases succeeded with
        | true => exact .inr (.inr rfl)
        | false => exact absurd hstage hopen.2
    · rw [if_neg hopen, Nat.zero_add] at h
      have hnone : (if e.order.request.id = id then e.stage.trail else []) = [] := by
        split
        · rename_i hid
          rw [not_not.1 fun hstage => hopen ⟨hid, hstage⟩]
          rfl
        · rfl
      rw [hnone]
      exact ih h

/-! ### Where the tasks come from -/

/-- A sweep of a run has made an order.  By then so many tasks had been sent, and those for the same
request were over and had failed. -/
def Cause (s : Setting ω) (memory : ω) (deeds : List (Deed ω)) (order : Order) (m : Nat) : Prop :=
  ∃ earlier d between ρ, deeds = earlier ++ .act (.begin .sweep d) :: between ∧
    (initial memory).run s earlier = ρ ∧ ρ.system.begun = order.sweep ∧
    Orders s (d.callers ρ.system.mailboxes) ρ.system.registry ρ.system.memory order.request ∧
    ρ.errands.length = m ∧
    ∀ e ∈ ρ.errands, e.order.request.id = order.request.id → e.stage = .closed false

theorem Cause.later {memory : ω} {deeds : List (Deed ω)} {order : Order} {m : Nat}
    (h : Cause s memory deeds order m) (x : Deed ω) : Cause s memory (deeds ++ [x]) order m := by
  obtain ⟨earlier, d, between, ρ, rfl, hrest⟩ := h
  exact ⟨earlier, d, between ++ [x], ρ, by rw [List.append_assoc]; rfl, hrest⟩

/-- All tasks for a request that come before the place `n` have been among the first `m`. -/
def NoneSince (errands : List Errand) (id : RequestId) (m n : Nat) : Prop :=
  ∀ k e, errands[k]? = some e → k < n → e.order.request.id = id → k < m

/-- The orders on their way and the tasks come from sweeps, and no other task for the request has
been sent since the sweep. -/
structure Founded (s : Setting ω) (memory : ω) (deeds : List (Deed ω)) (ρ : Provisioning ω) :
    Prop where
  carried : ∀ o ∈ carried ρ.system.calls, ∃ m ≤ ρ.errands.length, Cause s memory deeds o m ∧
    NoneSince ρ.errands o.request.id m ρ.errands.length
  errands : ∀ n e, ρ.errands[n]? = some e → ∃ m ≤ n, Cause s memory deeds e.order m ∧
    NoneSince ρ.errands e.order.request.id m n

theorem Founded.initial (memory : ω) : Founded s memory [] (Provisioning.initial memory) :=
  ⟨fun _ h => absurd h List.not_mem_nil, fun _ _ h => nomatch h⟩

/-- A deed that sends no task and leaves the operations alone. -/
theorem Founded.of_orders {memory : ω} {deeds : List (Deed ω)} (hρ : Founded s memory deeds ρ)
    (x : Deed ω) (hcalls : ρ'.system.calls = ρ.system.calls)
    (horders : ρ'.errands.map (·.order) = ρ.errands.map (·.order)) :
    Founded s memory (deeds ++ [x]) ρ' := by
  have hlength : ρ'.errands.length = ρ.errands.length := by
    rw [← List.length_map (·.order), horders, List.length_map]
  have hback : ∀ {n : Nat} {e : Errand}, ρ'.errands[n]? = some e →
      ∃ e₀, ρ.errands[n]? = some e₀ ∧ e₀.order = e.order := by
    intro n e he
    have hmap := congrArg (·[n]?) horders
    simp only [List.getElem?_map, he, Option.map_some] at hmap
    exact Option.map_eq_some_iff.1 hmap.symm
  have hsince : ∀ {id : RequestId} {m n : Nat},
      NoneSince ρ.errands id m n → NoneSince ρ'.errands id m n := by
    intro id m n h k e he hk hid
    obtain ⟨e₀, he₀, horder⟩ := hback he
    exact h k e₀ he₀ hk (by rw [horder]; exact hid)
  constructor
  · intro o ho
    rw [hcalls] at ho
    obtain ⟨m, hm, hcause, hnone⟩ := hρ.carried o ho
    rw [hlength]
    exact ⟨m, hm, hcause.later x, hsince hnone⟩
  · intro n e he
    obtain ⟨e₀, he₀, horder⟩ := hback he
    obtain ⟨m, hm, hcause, hnone⟩ := hρ.errands n e₀ he₀
    rw [← horder]
    exact ⟨m, hm, hcause.later x, hsince hnone⟩

theorem map_order_advance (ρ : Provisioning ω) (n : Nat) (stage : Stage) :
    (ρ.advance n stage).errands.map (·.order) = ρ.errands.map (·.order) := by
  refine List.ext_getElem? fun k => ?_
  rw [List.getElem?_map, List.getElem?_map, advance, List.getElem?_modify]
  cases ρ.errands[k]? with
  | none => rfl
  | some e => by_cases h : n = k <;> simp [h]

/-- A sweep that begins makes orders: their requests stand in the queue without a flag, so no task
for them is open and no order on its way. -/
theorem cause_of_sweep {memory : ω} {deeds : List (Deed ω)}
    (hρ : (Provisioning.initial memory).run s deeds = ρ) (hbalanced : ρ.Balanced)
    (hfresh : ρ.system.FreshRequests) (hconserved : ρ.system.Conserved) {d : Departures}
    {o : Order} (hsweep : o.sweep = ρ.system.begun)
    (ho : o.request ∈ (ρ.system.registry.sweep s (d.callers ρ.system.mailboxes)
      ρ.system.memory).toProvision) :
    Cause s memory (deeds ++ [.act (.begin .sweep d)]) o ρ.errands.length := by
  have hnodup : (ρ.system.registry.pending.map (·.request.id)).Nodup := by
    refine List.nodup_iff_count_le_one.2 fun id => ?_
    have hlength := hconserved.balance id
    have hcount := List.nodup_iff_count_le_one.1 hfresh id
    rw [System.length_fates] at hlength
    rw [count_map_id]
    omega
  have horders := orders_of_sweep hnodup ho
  refine ⟨deeds, d, [], ρ, rfl, hρ, hsweep.symm, horders, rfl, fun e he hid => ?_⟩
  obtain ⟨p, hp, hrequest, hflag, -⟩ := horders.unmatched
  have hunflagged := unflagged_pos_of_mem hp hflag
  rw [hrequest] at hunflagged
  have hle := hbalanced.orders_le_one hfresh o.request.id
  have hnone : openTasks ρ.errands o.request.id = 0 := by omega
  have hover := List.countP_eq_zero.1 hnone e he
  simpa [hid] using hover

/-- Tasks keep their places and their orders. -/
theorem Stepped.orders_kept {x : Deed ω} (h : Stepped s ρ x ρ') :
    ρ.errands.map (·.order) <+: ρ'.errands.map (·.order) := by
  cases h with
  | idle => exact List.prefix_rfl
  | acted h =>
    rw [List.map_append]
    exact List.prefix_append ..
  | begun | finished | reported =>
    show _ <+: (ρ.advance _ _).errands.map (·.order)
    rw [map_order_advance]

theorem orders_kept_run (memory : ω) (deeds later : List (Deed ω)) :
    ((Provisioning.initial memory).run s deeds).errands.map (·.order) <+:
      ((Provisioning.initial memory).run s (deeds ++ later)).errands.map (·.order) := by
  induction later using List.reverseRecOn with
  | nil => rw [List.append_nil]
  | append_singleton later x ih =>
    rw [← List.append_assoc, run_concat]
    exact ih.trans (step_stepped (s := s) _ (numbered_run memory (deeds ++ later)) x).orders_kept

/-- Two open tasks for a request. -/
theorem one_lt_openTasks {errands : List Errand} {k n : Nat} {e e' : Errand} {id : RequestId}
    (he : errands[n]? = some e) (he' : errands[k]? = some e') (hk : k < n)
    (hid : e.order.request.id = id) (hid' : e'.order.request.id = id)
    (hopen : e.stage ≠ .closed false) (hopen' : e'.stage ≠ .closed false) :
    1 < openTasks errands id := by
  have hfront : e' ∈ errands.take n :=
    List.mem_of_getElem? (i := k) (by rw [List.getElem?_take_of_lt hk, he'])
  have hback : e ∈ errands.drop n :=
    List.mem_of_getElem? (i := 0) (by rw [List.getElem?_drop, Nat.add_zero, he])
  have hpos : 0 < openTasks (errands.take n) id :=
    List.countP_pos_iff.2 ⟨e', hfront, by simp [hid', hopen']⟩
  have hpos' : 0 < openTasks (errands.drop n) id :=
    List.countP_pos_iff.2 ⟨e, hback, by simp [hid, hopen]⟩
  rw [← List.take_append_drop n errands, openTasks_append]
  omega

/-- Whatever is on its way or sent after a step of the registry comes from a sweep, since which no
task for its request had been sent before the step. -/
theorem Founded.cause_acted {memory : ω} {deeds : List (Deed ω)}
    (hrun : (Provisioning.initial memory).run s deeds = ρ) (hρ : Founded s memory deeds ρ)
    (hbalanced : ρ.Balanced) (hfresh : ρ.system.FreshRequests) (hconserved : ρ.system.Conserved)
    {τ : System ω} {a : Action ω} {events : List (Event ω)}
    (h : System.Ordered s ρ.system τ a events) {o : Order}
    (ho : o ∈ Registry.carried τ.calls ++ events.flatMap Event.placed) :
    ∃ m ≤ ρ.errands.length, Cause s memory (deeds ++ [.act a]) o m ∧
      NoneSince ρ.errands o.request.id m ρ.errands.length := by
  rcases h.origin o ho with ho | ⟨d, rfl, hsweep, ho⟩
  · obtain ⟨m, hm, hcause, hnone⟩ := hρ.carried o ho
    exact ⟨m, hm, hcause.later _, hnone⟩
  · exact ⟨_, Nat.le_refl _, cause_of_sweep hrun hbalanced hfresh hconserved hsweep ho,
      fun k _ _ hk _ => hk⟩

theorem placed_of_sent {errands : List Errand} {events : List (Event ω)} {k : Nat} {e : Errand}
    (he : (errands ++ sent events)[k]? = some e) (hk : errands.length ≤ k) :
    e.order ∈ events.flatMap Event.placed ∧ e.stage ≠ .closed false := by
  rw [List.getElem?_append_right hk] at he
  obtain ⟨order, horder, rfl⟩ := List.mem_map.1 (List.mem_of_getElem? he)
  exact ⟨horder, fun h => nomatch h⟩

/-- Something happens to the registry: the tasks that are sent come from orders on their way or from
the sweep that begins. -/
theorem Founded.acted {memory : ω} {deeds : List (Deed ω)}
    (hrun : (Provisioning.initial memory).run s deeds = ρ) (hρ : Founded s memory deeds ρ)
    (hbalanced : ρ.Balanced) (hfresh : ρ.system.FreshRequests) (hconserved : ρ.system.Conserved)
    {a : Action ω} {events : List (Event ω)}
    (h : System.Ordered s ρ.system ρ'.system a events)
    (herrands : ρ'.errands = ρ.errands ++ sent events)
    (hle : ∀ id, ordersFor (Registry.carried ρ'.system.calls) id + openTasks ρ'.errands id ≤ 1) :
    Founded s memory (deeds ++ [.act a]) ρ' := by
  have hcause := fun {o : Order} => hρ.cause_acted hrun hbalanced hfresh hconserved h (o := o)
  have hold : ∀ {k : Nat} {e : Errand}, ρ'.errands[k]? = some e → k < ρ.errands.length →
      ρ.errands[k]? = some e := by
    intro k e he hk
    rwa [herrands, List.getElem?_append_left hk] at he
  have hnew : ∀ {k : Nat} {e : Errand}, ρ'.errands[k]? = some e → ρ.errands.length ≤ k →
      e.order ∈ events.flatMap Event.placed ∧ e.stage ≠ .closed false :=
    fun he hk => placed_of_sent (herrands ▸ he) hk
  have hlength : ρ.errands.length ≤ ρ'.errands.length := by
    rw [herrands, List.length_append]
    exact Nat.le_add_right _ _
  constructor
  case carried =>
    intro o ho
    obtain ⟨m, hm, hcause, hnone⟩ := hcause (List.mem_append_left _ ho)
    refine ⟨m, Nat.le_trans hm hlength, hcause, fun k e he _ hid => ?_⟩
    rcases Nat.lt_or_ge k ρ.errands.length with hk | hk
    · exact hnone k e (hold he hk) hk hid
    · -- a new task for the request of an order on its way would be one too many
      obtain ⟨-, hopen⟩ := hnew he hk
      have hcarried := ordersFor_pos_of_mem ho
      have hpos : 0 < openTasks ρ'.errands o.request.id :=
        List.countP_pos_iff.2 ⟨e, List.mem_of_getElem? he, by simp [hid, hopen]⟩
      have hle := hle o.request.id
      omega
  case errands =>
    intro n e he
    rcases Nat.lt_or_ge n ρ.errands.length with hn | hn
    · obtain ⟨m, hm, hcause, hnone⟩ := hρ.errands n e (hold he hn)
      exact ⟨m, hm, hcause.later _, fun k e' he' hk hid =>
        hnone k e' (hold he' (Nat.lt_trans hk hn)) hk hid⟩
    · obtain ⟨hplaced, hopen⟩ := hnew he hn
      obtain ⟨m, hm, hcause, hnone⟩ := hcause (List.mem_append_right _ hplaced)
      refine ⟨m, Nat.le_trans hm hn, hcause, fun k e' he' hk hid => ?_⟩
      rcases Nat.lt_or_ge k ρ.errands.length with hlt | hge
      · exact hnone k e' (hold he' hlt) hlt hid
      · -- two new tasks for one request would be one too many
        have htwo := one_lt_openTasks he he' hk rfl hid hopen (hnew he' hge).2
        have hle := hle e.order.request.id
        omega

theorem Stepped.founded {memory : ω} {deeds : List (Deed ω)} {x : Deed ω} (h : Stepped s ρ x ρ')
    (hrun : (Provisioning.initial memory).run s deeds = ρ) (hfresh : ρ'.system.FreshRequests)
    (hconserved : ρ.system.Conserved) (hbalanced : ρ.Balanced) (hρ : Founded s memory deeds ρ) :
    Founded s memory (deeds ++ [x]) ρ' := by
  have hle := (h.balanced hfresh hconserved hbalanced).orders_le_one hfresh
  have hfresh₀ := h.fresh hfresh
  cases h with
  | idle => exact hρ.of_orders x rfl rfl
  | acted h =>
    refine hρ.acted hrun hbalanced hfresh₀ hconserved h rfl fun id => ?_
    have hle := hle id
    omega
  | begun => exact hρ.of_orders _ rfl (map_order_advance ρ _ _)
  | finished => exact hρ.of_orders _ rfl (map_order_advance ρ _ _)
  | reported => exact hρ.of_orders _ rfl (map_order_advance ρ _ _)

theorem conserved_run (memory : ω) (deeds : List (Deed ω))
    (hfresh : ((Provisioning.initial memory).run s deeds).system.FreshRequests) :
    ((Provisioning.initial memory).run s deeds).system.Conserved := by
  obtain ⟨actions, hsystem⟩ := exists_actions (s := s) memory deeds
  rw [hsystem] at hfresh ⊢
  exact System.conserved_run (.initial memory) actions hfresh

theorem founded_run (memory : ω) (deeds : List (Deed ω))
    (hfresh : ((Provisioning.initial memory).run s deeds).system.FreshRequests) :
    ((Provisioning.initial memory).run s deeds).Balanced ∧
      Founded s memory deeds ((Provisioning.initial memory).run s deeds) := by
  induction deeds using List.reverseRecOn with
  | nil => exact ⟨.initial memory, .initial memory⟩
  | append_singleton deeds x ih =>
    rw [run_concat] at hfresh ⊢
    have hstep := step_stepped (s := s) _ (numbered_run (s := s) memory deeds) x
    have hfresh₀ := hstep.fresh hfresh
    have hconserved := conserved_run memory deeds hfresh₀
    obtain ⟨hbalanced, hfounded⟩ := ih hfresh₀
    exact ⟨hstep.balanced hfresh hconserved hbalanced,
      hstep.founded rfl hfresh hconserved hbalanced hfounded⟩

/-! ### The discipline -/

/-- The list `ρ.calls id` of every request is a row of failures with at most one open or successful
call behind it, and each task in `ρ.errands` goes back to a sweep that `Orders` its request. -/
structure Disciplined (s : Setting ω) (memory : ω) (deeds : List (Deed ω)) (ρ : Provisioning ω) :
    Prop where
  /-- The calls of the provisioner for a request do not overlap, each but the last has failed, and
  nothing comes after a success. -/
  calls : ∀ id, ∃ k rest, ρ.calls id =
      (List.replicate k [CallEvent.started, .returned false]).flatten ++ rest ∧
    (rest = [] ∨ rest = [.started] ∨ rest = [.started, .returned true])
  /-- Every task comes from a sweep that found its request queued, with its caller there and no free
  slot for it, and that neither bound nor discarded it.  When this sweep began, all earlier tasks
  for the request had failed and reported the failure. -/
  cause : ∀ n e, ρ.errands[n]? = some e → ∃ earlier d between ρ₀,
    deeds = earlier ++ .act (.begin .sweep d) :: between ∧
    (Provisioning.initial memory).run s earlier = ρ₀ ∧ ρ₀.system.begun = e.order.sweep ∧
    Orders s (d.callers ρ₀.system.mailboxes) ρ₀.system.registry ρ₀.system.memory
      e.order.request ∧
    ρ₀.errands.length ≤ n ∧
    ∀ m e', m < n → ρ.errands[m]? = some e' → e'.order.request.id = e.order.request.id →
      ∃ e₀, ρ₀.errands[m]? = some e₀ ∧ e₀.order = e'.order ∧ e₀.stage = .closed false

/-- In every run, whatever the provisioner answers and however long it takes, the calls for a request
do not overlap, none is made after a success, and after a failure another is made only for a later
sweep that finds the request queued, its caller there and no free slot for it. -/
theorem disciplined_run (memory : ω) (deeds : List (Deed ω)) {ρ : Provisioning ω}
    (hρ : (Provisioning.initial memory).run s deeds = ρ) (hfresh : ρ.system.FreshRequests) :
    Disciplined s memory deeds ρ := by
  subst hρ
  obtain ⟨hbalanced, hfounded⟩ := founded_run memory deeds hfresh
  constructor
  case calls =>
    intro id
    obtain ⟨k, hk⟩ := hbalanced.calls id
    have hle := hbalanced.orders_le_one hfresh id
    exact ⟨k, _, hk, trails_of_le_one (by omega)⟩
  case cause =>
    intro n e he
    obtain ⟨m, hm, ⟨earlier, d, between, ρ₀, hdeeds, hρ₀, hsweep, horders, hlength, hover⟩, hnone⟩ :=
      hfounded.errands n e he
    refine ⟨earlier, d, between, ρ₀, hdeeds, hρ₀, hsweep, horders, hlength ▸ hm, ?_⟩
    intro k e' hk he' hid
    -- the task had been sent by then, and it was over
    have hlt : k < ρ₀.errands.length := hlength ▸ hnone k e' he' hk hid
    have hprefix := orders_kept_run (s := s) memory earlier (.act (.begin .sweep d) :: between)
    rw [← hdeeds, hρ₀] at hprefix
    have horder : ρ₀.errands[k].order = e'.order := by
      have hget := hprefix.getElem (i := k) (by rw [List.length_map]; exact hlt)
      rw [List.getElem_map, List.getElem_map] at hget
      rw [hget, (List.getElem?_eq_some_iff.1 he').2]
    refine ⟨_, List.getElem?_eq_getElem hlt, horder, hover _ (List.getElem_mem hlt) ?_⟩
    rw [horder]
    exact hid

/-- A registry for which nodes can be started for all requests. -/
def willingSetting : Setting Unit :=
  { (countingSetting : Setting Unit) with canProvision := fun _ _ => true }

/-- A node is asked for twice: the first time the provisioner fails. -/
def retriedDeeds : List (Deed Unit) :=
  [.act (.submit default), .act (.begin .sweep {}), .begin 0, .finish 0 false, .report 0,
    .act (.begin .sweep {}), .begin 1, .finish 1 true]

theorem disciplined_run_retried :
    let ρ := (Provisioning.initial ()).run willingSetting retriedDeeds
    ρ.system.FreshRequests ∧ ρ.errands.map (·.order.sweep) = [0, 1] ∧
      ρ.calls ⟨⟨0⟩⟩ = [.started, .returned false, .started, .returned true] ∧
      Disciplined willingSetting () retriedDeeds ρ := by
  have hfresh : ((Provisioning.initial ()).run willingSetting
      retriedDeeds).system.FreshRequests := by
    unfold System.FreshRequests
    decide +kernel
  exact ⟨hfresh, by decide +kernel, by decide +kernel, disciplined_run () retriedDeeds rfl hfresh⟩

end Provisioning

end BrowserGrid.Registry
