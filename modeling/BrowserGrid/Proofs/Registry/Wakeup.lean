import BrowserGrid.Proofs.Registry.Settled
import BrowserGrid.Registry.Bell

/-!
# No wake-up is lost

A `Hub` is a system with the loop that sweeps: where the loop stands, the bell that it listens to,
and how often operations have rung.  An operation rings after it has left the lock, so a ring may be
due for some time (`System.due`), and everything else may happen in between.

`Hub.Reason` says why no request is forgotten: the loop is about to sweep, or will hear the bell, or
a ring is still due, or the registry is settled.  Each step keeps it (`Hub.Attentive.step`), so a
loop that listens while no ring is stored or due has nothing to match (`Hub.parked_settled`).
-/

namespace BrowserGrid.Registry

variable {ω : Type} {s : Setting ω}

/-! ### The hub -/

/-- Where the loop stands that sweeps whenever the bell rings. -/
inductive Loop where
  /-- It does not run. -/
  | off
  /-- It is about to look whether the registry has been stopped. -/
  | checking
  /-- It has spawned a task that is about to sweep. -/
  | spawned
  /-- It waits for the sweep of that task. -/
  | sweeping (ticket : Nat)
  /-- It listens to the bell, for a limited time. -/
  | parked
  deriving DecidableEq

/-- Whether the bell is rung after an event. -/
def Event.rings : Event ω → Bool
  | .submitted (.ok _) => true
  | .reported _ _ .changed => true
  | _ => false

/-- How often the bell was to be rung so far. -/
def System.due (σ : System ω) : Nat := σ.history.countP Event.rings

/-- A system and the loop that sweeps. -/
structure Hub (ω : Type) where
  system : System ω
  /-- Where the loop stands. -/
  loop : Loop := .off
  bell : Bell := {}
  /-- How often operations have rung. -/
  rings : Nat := 0

namespace Hub

/-- What happens to a hub. -/
inductive Move (ω : Type) where
  /-- Something happens to the registry or around it. -/
  | act (a : Action ω)
  /-- An operation that has left the lock rings the bell. -/
  | ring
  /-- The loop is started. -/
  | start
  /-- The loop looks whether the registry has been stopped. -/
  | check
  /-- The task of the loop sweeps. -/
  | sweep (departures : Departures)
  /-- The sweep is over, and the loop listens to the bell. -/
  | listen
  /-- The loop looks whether it has heard the bell, or its time is over. -/
  | hear (timeUp : Bool)

def initial (memory : ω) : Hub ω := { system := .initial memory }

/-- The hub after something has happened to the registry; the end of the registry ends the loop. -/
def afterAct (s : Setting ω) (h : Hub ω) (a : Action ω) : Hub ω :=
  let σ := h.system.step s a
  if σ.registry.stopped && !h.system.registry.stopped then
    { h with system := σ, loop := .off, bell := h.bell.leave }
  else { h with system := σ }

def afterRing (h : Hub ω) : Hub ω :=
  if h.rings < h.system.due then { h with rings := h.rings + 1, bell := h.bell.ring } else h

def afterStart (h : Hub ω) : Hub ω :=
  if h.loop = .off then { h with loop := .checking } else h

def afterCheck (h : Hub ω) : Hub ω :=
  if h.loop = .checking then
    { h with loop := if h.system.registry.stopped then .off else .spawned }
  else h

def afterSweep (s : Setting ω) (h : Hub ω) (d : Departures) : Hub ω :=
  if h.loop = .spawned then
    { h with system := h.system.step s (.begin .sweep d), loop := .sweeping h.system.begun }
  else h

def afterListen (h : Hub ω) : Hub ω :=
  match h.loop with
  | .sweeping ticket =>
    -- the sweep may still be releasing sessions whose callers have gone
    if (h.system.call? ticket).isSome then h
    else
      let (heard, bell) := h.bell.listen
      { h with bell, loop := if heard then .checking else .parked }
  | _ => h

def afterHear (h : Hub ω) (timeUp : Bool) : Hub ω :=
  match h.loop with
  | .parked =>
    let (goesOn, bell) := h.bell.hear timeUp
    { h with bell, loop := if goesOn then .checking else .parked }
  | _ => h

def step (s : Setting ω) (h : Hub ω) : Move ω → Hub ω
  | .act a => h.afterAct s a
  | .ring => h.afterRing
  | .start => h.afterStart
  | .check => h.afterCheck
  | .sweep d => h.afterSweep s d
  | .listen => h.afterListen
  | .hear timeUp => h.afterHear timeUp

def run (s : Setting ω) (h : Hub ω) (moves : List (Move ω)) : Hub ω := moves.foldl (step s) h

end Hub

/-! ### Rings that are due -/

namespace System

variable {σ τ : System ω}

theorem due_append {events : List (Event ω)} (h : τ.history = σ.history ++ events) :
    τ.due = σ.due + events.countP Event.rings := by
  rw [due, h, List.countP_append, due]

theorem Moved.due_le (h : Moved s σ τ) : σ.due ≤ τ.due := by
  obtain ⟨events, hevents⟩ := h.exists_history
  rw [due_append hevents]
  exact Nat.le_add_right ..

/-- A section that reports a change makes a ring due. -/
theorem due_lt_of_changed {turn : Turn ω} {ticket : Nat} {op : Operation ω}
    (hhistory : τ.history = σ.history ++ turn.events ticket op) (h : News.changed ∈ turn.news) :
    σ.due < τ.due := by
  have hmem : Event.reported ticket op .changed ∈ turn.events ticket op :=
    reported_mem_events.2 ⟨rfl, rfl, h⟩
  have hpos : 0 < (turn.events ticket op).countP Event.rings :=
    List.countP_pos_iff.2 ⟨_, hmem, rfl⟩
  rw [due_append hhistory]
  exact Nat.lt_add_of_pos_right hpos

theorem Moved.stopped_mono (h : Moved s σ τ) (hstopped : σ.registry.stopped = true) :
    τ.registry.stopped = true := by
  cases hτ : τ.registry.stopped with
  | true => rfl
  | false =>
    have hsection {callers : Callers} {freed : Option ProxyId} {news : List News}
        (hsec : Section s callers σ.registry freed τ.registry news) : false = true := by
      rw [← hsec.stopped_mono hτ]
      exact hstopped
    cases h.outline with
    | quiet _ _ _ _ hsame => rw [← hτ, hsame, hstopped]
    | begun ticket op callers hregistry =>
      exact hsection (hregistry ▸ start_section callers σ.registry σ.memory op)
    | resumed c _ prepared hregistry =>
      exact hsection (hregistry ▸ resume_section s everybody σ.registry σ.memory prepared c.call)

/-- A step that unsettles the registry makes a ring due. -/
theorem Moved.settled (h : Moved s σ τ) (hσ : Settled σ.registry) :
    σ.due < τ.due ∨ τ.registry.stopped = true ∨ Settled τ.registry := by
  cases h with
  | still hregistry | refused _ hregistry | abandoned _ _ hregistry =>
    exact .inr (.inr (hregistry ▸ hσ))
  | admitted requested _ _ _ hhistory =>
    rw [due_append hhistory]
    exact .inl (Nat.lt_succ_self _)
  | withdrawn id own hregistry =>
    refine .inr (.inr ?_)
    rw [hregistry]
    exact SettledFor.of_requests hσ fun _ h => (List.filter_sublist.map _).subset h
  | activated key externalKey hregistry =>
    refine .inr (.inr ?_)
    rcases activate_cases σ.registry key externalKey with h | ⟨_, _, h⟩ <;> rw [hregistry, h] <;>
      exact hσ
  | unprovisioned id hregistry =>
    refine .inr (.inr ?_)
    rw [hregistry]
    exact SettledFor.of_requests hσ fun q hq => by rwa [requests_provisioningFailed] at hq
  | begun ticket op callers turn hturn hregistry _ hhistory =>
    have hsection := start_section (s := s) callers σ.registry σ.memory op
    rw [← hturn, ← hregistry] at hsection
    exact (hsection.settled hσ).imp_left (due_lt_of_changed hhistory)
  | resumed c _ prepared turn hturn hregistry _ hhistory =>
    have hsection := resume_section s everybody σ.registry σ.memory prepared c.call
    rw [← hturn, ← hregistry] at hsection
    exact (hsection.settled hσ).imp_left (due_lt_of_changed hhistory)

end System

/-! ### Why no request is forgotten -/

namespace Hub

/-- The position of the loop, the bell or the registry by which no queued request of `h` is
forgotten. -/
inductive Reason (h : Hub ω) : Prop where
  /-- The loop does not run. -/
  | off (hloop : h.loop = .off)
  /-- The loop is about to sweep. -/
  | ahead (hloop : h.loop = .checking ∨ h.loop = .spawned)
  /-- The loop will hear a stored ring. -/
  | stored (hstored : h.bell.stored = true)
  /-- The loop has heard a ring. -/
  | rung (hrung : h.bell.rung = true)
  /-- A ring is due. -/
  | owed (hrings : h.rings < h.system.due)
  /-- The registry has been stopped. -/
  | stopped (hstopped : h.system.registry.stopped = true)
  /-- There is nothing to match. -/
  | settled (hsettled : Settled h.system.registry)

/-- The bell has been rung at most as often as it was due, and there is a `Reason` why no queued
request is forgotten. -/
structure Attentive (h : Hub ω) : Prop where
  rings_le : h.rings ≤ h.system.due
  reason : h.Reason

namespace Attentive

variable {h : Hub ω}

theorem initial (memory : ω) : (Hub.initial memory).Attentive :=
  ⟨Nat.zero_le _, .off rfl⟩

theorem act (hh : h.Attentive) (a : Action ω) : (h.afterAct s a).Attentive := by
  have hmoved := System.step_moved (s := s) h.system a
  have hrings : h.rings ≤ (h.system.step s a).due := Nat.le_trans hh.rings_le hmoved.due_le
  unfold afterAct
  dsimp only
  split
  · exact ⟨hrings, .off rfl⟩
  · refine ⟨hrings, ?_⟩
    cases hh.reason with
    | off hloop => exact .off hloop
    | ahead hloop => exact .ahead hloop
    | stored hstored => exact .stored hstored
    | rung hrung => exact .rung hrung
    | owed hlt => exact .owed (Nat.lt_of_lt_of_le hlt hmoved.due_le)
    | stopped hstopped => exact .stopped (hmoved.stopped_mono hstopped)
    | settled hsettled =>
      -- whatever may unsettle the registry owes a ring from now on
      rcases hmoved.settled hsettled with hlt | hstopped | hsettled
      · exact .owed (Nat.lt_of_le_of_lt hh.rings_le hlt)
      · exact .stopped hstopped
      · exact .settled hsettled

theorem ring (hh : h.Attentive) : h.afterRing.Attentive := by
  unfold afterRing
  split
  · rename_i hlt
    refine ⟨hlt, ?_⟩
    -- one ring less is due, but the bell has taken it
    cases hwatched : h.bell.watched with
    | true => exact .rung (by rw [Bell.ring, if_pos hwatched])
    | false => exact .stored (by rw [Bell.ring, if_neg (by simp [hwatched])])
  · exact hh

theorem start (hh : h.Attentive) : h.afterStart.Attentive := by
  unfold afterStart
  split
  · exact ⟨hh.rings_le, .ahead (.inl rfl)⟩
  · exact hh

theorem check (hh : h.Attentive) : h.afterCheck.Attentive := by
  unfold afterCheck
  split
  · refine ⟨hh.rings_le, ?_⟩
    cases hstopped : h.system.registry.stopped with
    | true => exact .off rfl
    | false => exact .ahead (.inr rfl)
  · exact hh

/-- The sweep of the loop settles the registry. -/
theorem sweep (hh : h.Attentive) (d : Departures) : (h.afterSweep s d).Attentive := by
  unfold afterSweep
  split
  · have hmoved := System.step_moved (s := s) h.system (.begin .sweep d)
    refine ⟨Nat.le_trans hh.rings_le hmoved.due_le, ?_⟩
    cases hstopped : h.system.registry.stopped with
    | true => exact .stopped (hmoved.stopped_mono hstopped)
    | false => exact .settled (sweep_settled hstopped h.system.memory)
  · exact hh

theorem listen (hh : h.Attentive) : h.afterListen.Attentive := by
  unfold afterListen
  split
  · rename_i ticket hloop
    split
    · exact hh
    · refine ⟨hh.rings_le, ?_⟩
      cases hstored : h.bell.stored with
      | true => exact .ahead (.inl (by simp [Bell.listen, hstored]))
      | false =>
        -- the loop parks, for a reason that does not rest on where it stood
        cases hh.reason with
        | off hoff => exact absurd (hloop.symm.trans hoff) (by simp)
        | ahead hahead => rcases hahead with h | h <;> exact absurd (hloop.symm.trans h) (by simp)
        | stored h => exact absurd (hstored.symm.trans h) (by simp)
        | rung hrung => exact .rung (by simp [Bell.listen, hstored, hrung])
        | owed hlt => exact .owed hlt
        | stopped hstopped => exact .stopped hstopped
        | settled hsettled => exact .settled hsettled
  · exact hh

theorem hear (hh : h.Attentive) (timeUp : Bool) : (h.afterHear timeUp).Attentive := by
  unfold afterHear
  split
  · rename_i hloop
    cases hrung : h.bell.rung with
    | true => exact ⟨hh.rings_le, .ahead (.inl (by simp [Bell.hear, hrung]))⟩
    | false =>
      cases timeUp with
      | true => exact ⟨hh.rings_le, .ahead (.inl (by simp [Bell.hear, hrung]))⟩
      | false =>
        -- the loop has heard nothing and has time left
        have hsame : h.bell.hear false = (false, h.bell) := by simp [Bell.hear, hrung]
        rw [hsame]
        show Attentive { h with loop := .parked }
        rw [← hloop]
        exact hh
  · exact hh

theorem step (hh : h.Attentive) (m : Move ω) : (h.step s m).Attentive := by
  cases m with
  | act a => exact hh.act a
  | ring => exact hh.ring
  | start => exact hh.start
  | check => exact hh.check
  | sweep d => exact hh.sweep d
  | listen => exact hh.listen
  | hear timeUp => exact hh.hear timeUp

end Attentive

theorem attentive_run {h : Hub ω} (hh : h.Attentive) (moves : List (Move ω)) :
    (h.run s moves).Attentive := by
  induction moves generalizing h with
  | nil => exact hh
  | cons m moves ih => exact ih (hh.step m)

/-- While the loop listens, no ring is stored for it and none is due, no free slot takes a queued
request, so no request that could be matched waits until the time of the loop is over. -/
theorem parked_settled (memory : ω) (moves : List (Move ω)) {h : Hub ω}
    (hh : (initial memory).run s moves = h) (hrunning : h.system.registry.stopped = false)
    (hparked : h.loop = .parked) (hrung : h.bell.rung = false) (hstored : h.bell.stored = false)
    (hrings : h.rings = h.system.due) (accepts : Acceptance)
    (hanswers : Answers accepts h.system.registry.live) :
    ∀ p ∈ h.system.registry.pending, ∀ m,
      (h.system.registry.live.firstFree p.request.capabilities m).1 = .nothing := by
  have hattentive : h.Attentive := hh ▸ attentive_run (.initial memory) moves
  have hsettled : Settled h.system.registry := by
    cases hattentive.reason with
    | off hloop => exact absurd (hparked.symm.trans hloop) (by simp)
    | ahead hloop => rcases hloop with h | h <;> exact absurd (hparked.symm.trans h) (by simp)
    | stored h => exact absurd (hstored.symm.trans h) Bool.false_ne_true
    | rung h => exact absurd (hrung.symm.trans h) Bool.false_ne_true
    | owed hlt => exact absurd hlt (hrings ▸ Nat.lt_irrefl _)
    | stopped h => exact absurd (hrunning.symm.trans h) Bool.false_ne_true
    | settled hsettled => exact hsettled
  intro p hp m
  refine LiveProxies.searchList_eq_nothing (fun f hf m' => ?_) m
  rw [LiveProxies.freeSlots_eq] at hf
  obtain ⟨place, hplace, rfl⟩ := List.mem_map.1 hf
  obtain ⟨hplace, hfree⟩ := List.mem_filter.1 hplace
  exact hsettled p hp place hplace hfree (hanswers.steadfast hplace) m'

/-- A proxy with one slot comes while the loop sweeps, then one request after the other; the loop
hears of each, and of the second it hears again after it has looked at it. -/
def parkedRun : List (Move Unit) :=
  [.start, .check, .sweep {}, .act (.begin (.add (judgingProxy "node:4444" (.accepted, ·))) {}),
    .act (.resume 1 true), .ring, .listen, .act (.submit default), .check, .sweep {}, .ring,
    .act (.submit default), .listen, .check, .sweep {}, .ring, .listen, .check, .sweep {}, .listen]

/-- The hub in which the second request waits. -/
def parkedHub : Hub Unit := (initial ()).run countingSetting parkedRun

theorem parked_settled_waiting :
    parkedHub.loop = .parked ∧ parkedHub.rings = 3 ∧ parkedHub.system.due = 3 ∧
      parkedHub.bell.stored = false ∧ parkedHub.bell.rung = false ∧
      parkedHub.system.registry.pending.length = 1 ∧
      ∀ p ∈ parkedHub.system.registry.pending,
        (parkedHub.system.registry.live.firstFree p.request.capabilities ()).1 = .nothing := by
  have hlive : parkedHub.system.registry.live.entries.map (·.2.proxy) =
      [judgingProxy "node:4444" (.accepted, ·)] := by with_unfolding_all rfl
  have hanswers : Answers (fun _ _ _ => true) parkedHub.system.registry.live := by
    intro id e he offered requested m
    have hmem : e.proxy ∈ parkedHub.system.registry.live.entries.map (·.2.proxy) :=
      List.mem_map.2 ⟨(id, e), KeyMap.get?_eq_some_iff.1 he, rfl⟩
    rw [hlive] at hmem
    rw [List.mem_singleton.1 hmem]
    rfl
  have hparked : parkedHub.loop = .parked := by decide +kernel
  have hrung : parkedHub.bell.rung = false := by decide +kernel
  have hstored : parkedHub.bell.stored = false := by decide +kernel
  have hdue : parkedHub.system.due = 3 := by decide +kernel
  have hrings : parkedHub.rings = 3 := by decide +kernel
  refine ⟨hparked, hrings, hdue, hstored, hrung, by decide +kernel, fun p hp => ?_⟩
  exact parked_settled () parkedRun rfl (by decide +kernel) hparked hrung hstored
    (hrings.trans hdue.symm) (fun _ _ _ => true) hanswers p hp ()

end Hub

end BrowserGrid.Registry
