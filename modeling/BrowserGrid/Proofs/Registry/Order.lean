import BrowserGrid.Proofs.Registry.Moves
import Mathlib.Data.List.Perm.Subperm

/-!
# The order of service

Requests are served by descending priority and, among equal ones, in the order of arrival.  In every
run the requests of the queue have different places in the order of arrival
(`System.sequenced_run`), so the order of service is determined by the requests that are queued and
not by the order in which they are stored (`ServiceOrder.unique`).
-/

namespace BrowserGrid.Registry

variable {ω : Type} {s : Setting ω} {callers : Callers}

/-! ### Which request comes first -/

/-- Whether a request is served before another. -/
def Precedes (p q : Request) : Prop :=
  q.priority < p.priority ∨ p.priority = q.priority ∧ p.sequence < q.sequence

instance (p q : Request) : Decidable (Precedes p q) :=
  inferInstanceAs (Decidable (_ ∨ _))

theorem Precedes.asymm {p q : Request} (h : Precedes p q) : ¬Precedes q p := by
  unfold Precedes at *
  omega

/-- The requests of a queue in the order in which they are served. -/
structure ServiceOrder (pending order : List PendingRequest) : Prop where
  /-- The requests are those of the queue. -/
  perm : order.Perm pending
  /-- Each is served before all later ones. -/
  sorted : order.Pairwise fun p q => Precedes p.request q.request

namespace ServiceOrder

theorem unique {pending order other : List PendingRequest} (h : ServiceOrder pending order)
    (h' : ServiceOrder pending other) : other = order :=
  (h'.perm.trans h.perm.symm).eq_of_pairwise
    (fun _ _ _ _ hpq hqp => absurd hqp hpq.asymm) h'.sorted h.sorted

/-- The order in which the requests are stored does not matter. -/
theorem of_perm {pending stored order : List PendingRequest} (h : ServiceOrder pending order)
    (hstored : stored.Perm pending) : ServiceOrder stored order :=
  ⟨h.perm.trans hstored.symm, h.sorted⟩

end ServiceOrder

theorem before_iff {p q : PendingRequest} : before p q = true ↔
    q.request.priority < p.request.priority ∨
      p.request.priority = q.request.priority ∧ p.request.sequence ≤ q.request.sequence := by
  simp [before]

theorem pairwise_before (pending : List PendingRequest) :
    (pending.mergeSort before).Pairwise (fun p q => before p q) := by
  have htrans : ∀ p q r : PendingRequest, before p q → before q r → before p r := by
    intro p q r hpq hqr
    rw [before_iff] at *
    omega
  have htotal : ∀ p q : PendingRequest, (before p q || before q p) = true := by
    intro p q
    rw [Bool.or_eq_true, before_iff, before_iff]
    omega
  exact List.pairwise_mergeSort htrans htotal pending

/-- A sweep sorts its queue into the order of service. -/
theorem serviceOrder_mergeSort {pending : List PendingRequest}
    (h : (pending.map (·.request.sequence)).Nodup) :
    ServiceOrder pending (pending.mergeSort before) := by
  have hperm : (pending.mergeSort before).Perm pending := List.mergeSort_perm ..
  have hne : (pending.mergeSort before).Pairwise
      (fun p q => p.request.sequence ≠ q.request.sequence) :=
    List.pairwise_map.1 ((hperm.map _).nodup_iff.2 h)
  -- sorting leaves ties in the order in which they are stored, but there are none
  refine ⟨hperm, ((pairwise_before pending).and hne).imp fun {p q} ⟨hle, hne⟩ => ?_⟩
  rw [before_iff] at hle
  unfold Precedes
  omega

/-! ### What a section does to the queue -/

theorem map_subperm {α β : Type} (f : α → β) {xs ys : List α} (h : xs.Subperm ys) :
    (xs.map f).Subperm (ys.map f) := by
  obtain ⟨zs, hperm, hsub⟩ := h
  exact ⟨zs.map f, hperm.map f, hsub.map f⟩

theorem Sweep.Visited.remaining_sublist {w w' : Sweep ω} {p : PendingRequest}
    (h : Visited s callers w p w') :
    (w'.remaining.map (·.request)).Sublist (w.remaining.map (·.request) ++ [p.request]) := by
  cases h with
  | discarded => exact List.sublist_append_left ..
  | kept _ _ q _ hq =>
    rw [List.map_append, List.map_singleton, hq]
  | refused =>
    rw [List.map_append, List.map_singleton]
  | bound =>
    rw [deliver_remaining]
    exact List.sublist_append_left ..

theorem Sweep.Visits.remaining_sublist {w w' : Sweep ω} {seen : List PendingRequest}
    (h : Visits s callers w seen w') :
    (w'.remaining.map (·.request)).Sublist
      (w.remaining.map (·.request) ++ seen.map (·.request)) := by
  induction h with
  | nil =>
    rw [List.map_nil, List.append_nil]
  | snoc _ hp ih =>
    rw [List.map_append, ← List.append_assoc]
    exact hp.remaining_sublist.trans (ih.append_right _)

/-- A section adds no request to the queue and does not number requests. -/
theorem Section.queue {r r' : Registry ω} {freed : Option ProxyId} {news : List News}
    (h : Section s callers r freed r' news) :
    (r'.pending.map (·.request)).Subperm (r.pending.map (·.request)) ∧
      r'.nextSequence = r.nextSequence := by
  cases h with
  | idle => exact ⟨.refl _, rfl⟩
  | released h =>
    obtain ⟨_, _, _, rfl⟩ := release_eq h
    exact ⟨.refl _, rfl⟩
  | removed h =>
    obtain ⟨_, _, _, rfl⟩ := removeProxy_eq h
    exact ⟨.refl _, rfl⟩
  | staged h =>
    obtain ⟨_, _, h⟩ := stage_eq h
    rw [(eq_of_removeProxy_none h).2]
    exact ⟨.refl _, rfl⟩
  | replaced h =>
    obtain ⟨_, _, h⟩ := stage_eq h
    obtain ⟨_, _, _, rfl⟩ := removeProxy_eq h
    exact ⟨.refl _, rfl⟩
  | promoted h =>
    obtain ⟨_, rfl⟩ := promote_eq h
    exact ⟨.refl _, rfl⟩
  | stopped h =>
    obtain ⟨_, _, _, rfl⟩ := stop_eq h
    exact ⟨List.nil_subperm, rfl⟩
  | swept memory =>
    cases hstopped : r.stopped with
    | true =>
      rw [sweep_of_stopped hstopped]
      exact ⟨.refl _, rfl⟩
    | false =>
      obtain ⟨seen, unseen, w, hpassed⟩ := sweep_passed s callers hstopped memory
      rw [hpassed.registry_eq]
      refine ⟨?_, rfl⟩
      show ((if _ then [] else w.remaining).map _).Subperm _
      split
      · -- a pass that a matcher has broken off leaves no queue
        exact List.nil_subperm
      · have hseen : seen.Subperm r.pending :=
          (List.sublist_append_left seen unseen).subperm.trans hpassed.queue.subperm
        exact hpassed.visits.remaining_sublist.subperm.trans (map_subperm _ hseen)

theorem requests_provisioningFailed (r : Registry ω) (id : RequestId) :
    (r.provisioningFailed id).pending.map (·.request) = r.pending.map (·.request) := by
  rw [provisioningFailed, List.map_map]
  refine List.map_congr_left fun p _ => ?_
  rw [Function.comp_apply]
  split <;> rfl

/-! ### The numbers of the queued requests -/

/-- The queued requests have been numbered one after the other. -/
structure Sequenced (r : Registry ω) : Prop where
  /-- No two have the same number. -/
  nodup : (r.pending.map (·.request.sequence)).Nodup
  /-- The next number is larger than all of them. -/
  lt : ∀ p ∈ r.pending, p.request.sequence < r.nextSequence

namespace Sequenced

theorem empty : Sequenced ({} : Registry ω) := ⟨.nil, fun _ h => absurd h List.not_mem_nil⟩

/-- Taking requests from the queue, or changing what is noted with them, does not matter. -/
theorem of_subperm {r r' : Registry ω} (h : Sequenced r)
    (hpending : (r'.pending.map (·.request)).Subperm (r.pending.map (·.request)))
    (hnext : r'.nextSequence = r.nextSequence) : Sequenced r' := by
  have hsequence : (r'.pending.map (·.request.sequence)).Subperm
      (r.pending.map (·.request.sequence)) := by
    have hmap := map_subperm Request.sequence hpending
    rwa [List.map_map, List.map_map] at hmap
  obtain ⟨numbers, hperm, hsub⟩ := hsequence
  refine ⟨hperm.nodup_iff.1 (h.nodup.sublist hsub), fun p hp => ?_⟩
  obtain ⟨q, hq, heq⟩ := List.mem_map.1 (hpending.subset (List.mem_map_of_mem hp))
  rw [hnext, ← heq]
  exact h.lt q hq

theorem enqueue {r : Registry ω} (h : Sequenced r) (requested : Capabilities) :
    Sequenced (r.enqueue (nextRequest s r requested)) := by
  have hlt : ∀ p ∈ r.pending, p.request.sequence < r.nextSequence := h.lt
  constructor
  · show ((r.pending ++ [_]).map _).Nodup
    rw [List.map_append, List.nodup_append]
    refine ⟨h.nodup, List.pairwise_singleton .., ?_⟩
    rintro _ hfirst _ hlast rfl
    obtain ⟨p, hp, heq⟩ := List.mem_map.1 hfirst
    have hnext := List.mem_singleton.1 hlast
    exact absurd (hlt p hp) (by rw [heq, hnext]; exact Nat.lt_irrefl _)
  · intro p hp
    rcases List.mem_append.1 hp with hp | hp
    · exact Nat.lt_succ_of_lt (hlt p hp)
    · rw [List.mem_singleton.1 hp]
      exact Nat.lt_succ_self _

end Sequenced

namespace System

theorem Moved.sequenced {σ τ : System ω} (h : Moved s σ τ) (hσ : Sequenced σ.registry) :
    Sequenced τ.registry := by
  cases h with
  | still hregistry | refused _ hregistry | abandoned _ _ hregistry =>
    rw [hregistry]
    exact hσ
  | admitted requested _ hregistry =>
    rw [hregistry]
    exact hσ.enqueue requested
  | withdrawn id own hregistry =>
    rw [hregistry]
    exact hσ.of_subperm (List.filter_sublist.map _).subperm rfl
  | activated key externalKey hregistry =>
    rcases activate_cases σ.registry key externalKey with h | ⟨_, _, h⟩ <;> rw [hregistry, h]
    · exact hσ
    · exact ⟨hσ.nodup, hσ.lt⟩
  | unprovisioned id hregistry =>
    rw [hregistry]
    exact hσ.of_subperm (by rw [requests_provisioningFailed]) rfl
  | begun ticket op callers turn hturn hregistry =>
    rw [hregistry, hturn]
    obtain ⟨hpending, hnext⟩ := (start_section callers σ.registry σ.memory op).queue
    exact hσ.of_subperm hpending hnext
  | resumed c _ prepared turn hturn hregistry =>
    rw [hregistry, hturn]
    obtain ⟨hpending, hnext⟩ :=
      (resume_section s everybody σ.registry σ.memory prepared c.call).queue
    exact hσ.of_subperm hpending hnext

theorem sequenced_run (memory : ω) (actions : List (Action ω)) :
    Sequenced ((initial memory).run s actions).registry :=
  run_induction (fun σ a hσ => (step_moved σ a).sequenced hσ) Sequenced.empty actions

end System

end BrowserGrid.Registry
