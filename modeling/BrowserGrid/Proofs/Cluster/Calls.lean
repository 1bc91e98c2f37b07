import BrowserGrid.Cluster.Program

/-!
# The calls of a program

`calls` lists what a program asks of a platform, in order.  `failures` are those of them that fail.

A program that may fail goes on only from a success.  So a sequence of two succeeds only if both do
(`run_bind_ok`), and the second one makes calls only if the first one has succeeded
(`mem_calls_bind`).
-/

namespace BrowserGrid.Cluster

/-- Whether an operation only looks at the platform. -/
def Operation.isQuery : Operation → Bool
  | getPod _ | listPods _ | listServices _ => true
  | createPod _ | deletePod _ | createService _ | deleteService _ => false

namespace Program

variable {α β σ : Type} {answer : σ → (op : Operation) → Except ClusterError op.Reply × σ}

/-- The calls that a program makes on a platform. -/
def calls (answer : σ → (op : Operation) → Except ClusterError op.Reply × σ) :
    Program α → σ → List Operation
  | done _, _ => []
  | call op next, s => op :: calls answer (next (answer s op).1) (answer s op).2

/-! ### One program after the other -/

theorem run_bind (p : Program α) (f : α → Program β) (s : σ) :
    run answer (p >>= f) s = run answer (f (run answer p s).1) (run answer p s).2 := by
  induction p generalizing s with
  | done a => rfl
  | call op next ih => exact ih (answer s op).1 (answer s op).2

theorem calls_bind (p : Program α) (f : α → Program β) (s : σ) :
    calls answer (p >>= f) s =
      calls answer p s ++ calls answer (f (run answer p s).1) (run answer p s).2 := by
  induction p generalizing s with
  | done a => rfl
  | call op next ih => exact congrArg (op :: ·) (ih (answer s op).1 (answer s op).2)

/-! ### Programs that may fail -/

/-- A computation that goes on from a success has had one. -/
theorem bind_eq_ok {ε : Type} {x : Except ε α} {f : α → Except ε β} {b : β}
    (h : x >>= f = .ok b) : ∃ a, x = .ok a ∧ f a = .ok b := by
  cases x with
  | ok a => exact ⟨a, rfl, h⟩
  | error e => nomatch h

variable {x : Fallible α} {f : α → Fallible β} {s : σ}

theorem mem_calls_perform {op made : Operation} :
    made ∈ calls answer (perform op).run s ↔ made = op :=
  List.mem_singleton

theorem run_perform (op : Operation) (s : σ) : run answer (perform op).run s = answer s op := rfl

theorem run_bind_of_ok {a : α} (h : (run answer x.run s).1 = .ok a) :
    run answer (x >>= f).run s = run answer (f a).run (run answer x.run s).2 := by
  rw [ExceptT.run_bind, run_bind, h]

theorem run_bind_of_error {e : ClusterError} (h : (run answer x.run s).1 = .error e) :
    run answer (x >>= f).run s = (.error e, (run answer x.run s).2) := by
  rw [ExceptT.run_bind, run_bind, h]
  rfl

/-- A sequence succeeds only if both parts do. -/
theorem run_bind_ok {b : β} (h : (run answer (x >>= f).run s).1 = .ok b) :
    ∃ a, (run answer x.run s).1 = .ok a ∧
      (run answer (f a).run (run answer x.run s).2).1 = .ok b := by
  cases hx : (run answer x.run s).1 with
  | ok a => exact ⟨a, rfl, by rwa [run_bind_of_ok hx] at h⟩
  | error e => rw [run_bind_of_error hx] at h; nomatch h

/-- A sequence that succeeds, taken apart with the states between. -/
theorem run_bind_eq_ok {b : β} {s' : σ} :
    run answer (x >>= f).run s = (.ok b, s') ↔
      ∃ a s₁, run answer x.run s = (.ok a, s₁) ∧ run answer (f a).run s₁ = (.ok b, s') := by
  cases hx : run answer x.run s with
  | mk result s₁ =>
    cases result with
    | ok a =>
      rw [run_bind_of_ok (by rw [hx]), hx]
      constructor
      · exact fun h => ⟨a, s₁, rfl, h⟩
      · rintro ⟨_, _, ⟨⟩, h⟩
        exact h
    | error e =>
      rw [run_bind_of_error (by rw [hx]), hx]
      constructor
      · exact fun h => nomatch h
      · rintro ⟨_, _, ⟨⟩, _⟩

/-- The second part of a sequence makes its calls only after the first one has succeeded. -/
theorem mem_calls_bind {op : Operation} :
    op ∈ calls answer (x >>= f).run s ↔ op ∈ calls answer x.run s ∨
      ∃ a, (run answer x.run s).1 = .ok a ∧
        op ∈ calls answer (f a).run (run answer x.run s).2 := by
  rw [ExceptT.run_bind, calls_bind, List.mem_append]
  refine or_congr_right ?_
  cases (run answer x.run s).1 with
  | ok a => simp
  | error e =>
    show op ∈ [] ↔ _
    simp

/-! ### Calls that fail -/

/-- The calls of a program that fail. -/
def failures (answer : σ → (op : Operation) → Except ClusterError op.Reply × σ) :
    Program α → σ → List Operation
  | done _, _ => []
  | call op next, s =>
    let later := failures answer (next (answer s op).1) (answer s op).2
    match (answer s op).1 with
    | .ok _ => later
    | .error _ => op :: later

variable {op : Operation} {next : Except ClusterError op.Reply → Program α}

theorem failures_call_of_ok {reply : op.Reply} (h : (answer s op).1 = .ok reply) :
    failures answer (call op next) s = failures answer (next (.ok reply)) (answer s op).2 := by
  simp only [failures, h]

theorem failures_call_of_error {e : ClusterError} (h : (answer s op).1 = .error e) :
    failures answer (call op next) s =
      op :: failures answer (next (.error e)) (answer s op).2 := by
  simp only [failures, h]

theorem failures_bind (p : Program α) (f : α → Program β) (s : σ) :
    failures answer (p >>= f) s =
      failures answer p s ++ failures answer (f (run answer p s).1) (run answer p s).2 := by
  induction p generalizing s with
  | done a => rfl
  | call op next ih =>
    have hrun : run answer (call op next) s = run answer (next (answer s op).1) (answer s op).2 :=
      rfl
    show failures answer (call op fun reply => next reply >>= f) s = _
    rw [hrun]
    cases h : (answer s op).1 with
    | ok reply => rw [failures_call_of_ok h, failures_call_of_ok h, ih]
    | error e => rw [failures_call_of_error h, failures_call_of_error h, ih, List.cons_append]

theorem mem_calls_of_mem_failures {p : Program α} {made : Operation}
    (h : made ∈ failures answer p s) : made ∈ calls answer p s := by
  induction p generalizing s with
  | done a => nomatch h
  | call op next ih =>
    cases hreply : (answer s op).1 with
    | ok reply =>
      rw [failures_call_of_ok hreply, ← hreply] at h
      exact List.mem_cons_of_mem _ (ih _ h)
    | error e =>
      rw [failures_call_of_error hreply, ← hreply] at h
      rcases List.mem_cons.1 h with rfl | h
      · exact List.mem_cons_self
      · exact List.mem_cons_of_mem _ (ih _ h)

end Program

end BrowserGrid.Cluster
