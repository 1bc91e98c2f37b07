import BrowserGrid.Proofs.Cluster.Exposure

/-!
# Registering a pod again

On a platform that serves the hub (`Platform.Serves`), a pod with a screen is registered if the name
of its service is free (`registerNode_of_free`).  A second registration finds what the first one
has left: the pod, and under its name a service that is reused, since the labels, the selector and
the port of a new service are those by which it is looked up and judged (`Ensured.settled`).  So it
only looks at the platform and answers the same (`registerNode_settled`), and however often it is
repeated, nothing changes (`registerAll_settled`).

A registration touches no pod, and no service of another name (`Registered.others`).  Whatever a
list of registrations of one pod has done is therefore undone when the pod is stopped:
`registerNode_repeatable` joins both.
-/

namespace BrowserGrid.Cluster

open Program

variable {α β σ : Type} {P : Platform σ} {s s' : σ}

/-! ### Programs that only look -/

/-- Run from `s`, the program `x` returns `a`, leaves `P.holds` as it is, and makes only calls that
satisfy `isQuery`. -/
structure ReadsOnly (P : Platform σ) (x : Fallible α) (s : σ) (a : α) : Prop where
  succeeds : (run P.answer x.run s).1 = .ok a
  spares : P.holds (run P.answer x.run s).2 = P.holds s
  queries : ∀ op ∈ calls P.answer x.run s, op.isQuery = true

namespace ReadsOnly

theorem pure (a : α) (s : σ) : ReadsOnly P (Pure.pure a) s a := ⟨rfl, rfl, fun _ hop => nomatch hop⟩

theorem ofExcept {result : Except ClusterError α} {a : α} (h : result = .ok a) :
    ReadsOnly P (Client.ofExcept result) s a :=
  ⟨h, rfl, fun _ hop => nomatch hop⟩

theorem perform {op : Operation} {reply : op.Reply} (hP : P.Performs) (hquery : op.isQuery = true)
    (h : (P.answer s op).1 = .ok reply) : ReadsOnly P (Program.perform op) s reply where
  succeeds := h
  spares := by
    have heffect := hP s op reply h
    cases op with
    | getPod | listPods | listServices => exact heffect.2
    | createPod | deletePod | createService | deleteService => nomatch hquery
  queries op hop := by rwa [mem_calls_perform.1 hop]

theorem bind {x : Fallible α} {f : α → Fallible β} {a : α} {b : β} (hx : ReadsOnly P x s a)
    (hf : ∀ t, P.holds t = P.holds s → ReadsOnly P (f a) t b) : ReadsOnly P (x >>= f) s b := by
  have hrest := hf _ hx.spares
  have hrun := run_bind_of_ok (f := f) hx.succeeds
  refine ⟨by rw [hrun, hrest.succeeds], by rw [hrun, hrest.spares, hx.spares], fun op hop => ?_⟩
  obtain hop | ⟨a', ha', hop⟩ := mem_calls_bind.1 hop
  · exact hx.queries op hop
  · obtain rfl := Except.ok.inj (ha'.symm.trans hx.succeeds)
    exact hrest.queries op hop

end ReadsOnly

namespace Client

variable {c : Client} {nodeName remoteHost ip name slot : String} {pods : List Pod} {pod : Pod}
  {port : Nat} {service exposed : Service} {r : NodeRegistration}

/-- Register nodes one after the other, by their names and the hosts that they announce. -/
def registerAll (c : Client) : List (String × String) → Fallible (List NodeRegistration)
  | [] => return []
  | (nodeName, remoteHost) :: rest => do
    let r : NodeRegistration ← c.registerNode nodeName remoteHost
    let later : List NodeRegistration ← registerAll c rest
    return r :: later

/-! ### What a registration leaves -/

theorem resolve_of_wanted {wanted : Option Service} (hfirst : FirstAt pods ip pod)
    (hname : pod.name? = some name) (hwanted : c.wantedService pod name = .ok wanted) :
    c.resolve nodeName remoteHost ip pods = .ok (name, wanted) := by
  simp only [resolve, find?_eq_some_iff_firstAt.2 hfirst, hname, hwanted]
  rfl

/-- A new service can be reached from outside. -/
theorem outside_of_created (hP : P.Serves)
    (hassigned : Assigned (c.screenService name slot port).service exposed)
    (hcreated : ∃ t, (P.answer t
      (.createService (c.screenService name slot port).service)).1 = .ok exposed) :
    ∃ entry outside, exposed.spec.ports.find? (·.name == some c.screenPortName) = some entry ∧
      entry.nodePort = some outside := by
  obtain ⟨entry, hports, hfirst, -⟩ := entry_of_assigned hassigned
  obtain ⟨t, hcreated⟩ := hcreated
  obtain ⟨outside, houtside⟩ := Option.isSome_iff_exists.1
    (hP.assigns t _ exposed hcreated entry (by simp [hports]))
  exact ⟨entry, outside, hfirst, houtside⟩

/-- A service that has been ensured would be found and reused. -/
theorem Ensured.settled {before after : Inventory} (hP : P.Serves)
    (hkey : Label.isKey c.ownershipLabel = true) (hvalue : Label.isValue c.ownershipValue = true)
    (h : Ensured P c name (c.screenService name slot port).service before exposed after) :
    (c.ownServices P after).find? (·.name? == some name) = some exposed ∧
      c.reusable exposed (c.screenService name slot port).service = true := by
  cases h with
  | reused hfound hreusable => exact ⟨hfound, hreusable⟩
  | fresh hunfit hcreated hassigned hinserted hpods =>
    -- what is read back is what has been written: labels, name, selector and the name of the port
    obtain ⟨entry, outside, hfirst, houtside⟩ := outside_of_created hP hassigned hcreated
    have hname : exposed.name? = some name := hassigned.name?
    have howned : P.selects c.ownerSelector exposed.metadata.labels = true := by
      rw [hassigned.metadata]
      exact hP.selectsLabels.ownerLabels hkey hvalue
    exact ⟨find?_ownServices_eq_some_iff.2 ⟨hinserted.mem, howned, hname⟩,
      (reusable_iff hname).2 ⟨entry, outside, hname, hassigned.selector, hfirst, houtside⟩⟩

/-- A registration touches no pod, and no service of another name. -/
theorem Registered.others {before after : Inventory} (hname : pod.name? = some r.containerId)
    (h : Registered P c pod before r after) :
    after.pods = before.pods ∧
      after.services.filter (·.name? ≠ some r.containerId) =
        before.services.filter (·.name? ≠ some r.containerId) := by
  cases h with
  | screenless => exact ⟨rfl, rfl⟩
  | @exposed name _ _ made _ hwanted hensured =>
    cases hensured with
    | reused => exact ⟨rfl, rfl⟩
    | fresh hunfit hcreated hassigned hinserted hpods =>
      obtain ⟨slot, port, -, rfl⟩ := wantedService_ok hname hwanted
      have hmade : made.name? = some name := hassigned.name?
      refine ⟨hpods, ?_⟩
      rw [hinserted.filter_of_neg (by simpa using hmade), List.filter_filter]
      simp only [Bool.and_self]

/-! ### The same registration once more -/

section Serving

variable (hP : P.Serves) (hkey : Label.isKey c.ownershipLabel = true)
  (hvalue : Label.isValue c.ownershipValue = true)

include hP hkey hvalue

theorem readsOnly_listPods (s : σ) :
    ReadsOnly P (perform (.listPods c.ownerSelector)) s (c.ownPods P (P.holds s)) := by
  obtain ⟨pods, hpods⟩ := hP.listsPods s _ _ hkey hvalue
  obtain ⟨rfl, -⟩ := hP.performs.listPods (Prod.ext hpods rfl)
  exact .perform hP.performs rfl hpods

theorem readsOnly_listServices (s : σ) :
    ReadsOnly P (perform (.listServices c.ownerSelector)) s (c.ownServices P (P.holds s)) := by
  obtain ⟨services, hservices⟩ := hP.listsServices s _ _ hkey hvalue
  obtain ⟨rfl, -⟩ := hP.performs.listServices (Prod.ext hservices rfl)
  exact .perform hP.performs rfl hservices

/-- A service whose name is free is ensured by taking it in. -/
theorem ensureService_of_free (hname : service.name? = some name)
    (hfree : ∀ held ∈ (P.holds s).services, held.name? ≠ some name) :
    ∃ created, (run P.answer (c.ensureService service).run s).1 = .ok created ∧
      ∃ t, (P.answer t (.createService service)).1 = .ok created := by
  have hlist := readsOnly_listServices hP hkey hvalue s
  have hnone : (c.ownServices P (P.holds s)).find? (·.name? == some name) = none :=
    List.find?_eq_none.2 fun held hheld => by simpa using hfree held (List.mem_filter.1 hheld).1
  rw [ensureService, hname, Option.getD_some, run_bind_of_ok hlist.succeeds]
  simp only [hnone]
  obtain ⟨created, hcreated⟩ := (hP.creates _ service name hname).2 (hlist.spares ▸ hfree)
  exact ⟨created, hcreated, _, hcreated⟩

/-- A service that is found and reusable is ensured by looking. -/
theorem readsOnly_ensureService (hname : service.name? = some name)
    (hfound : (c.ownServices P (P.holds s)).find? (·.name? == some name) = some exposed)
    (hreusable : c.reusable exposed service = true) :
    ReadsOnly P (c.ensureService service) s exposed := by
  rw [ensureService, hname, Option.getD_some]
  refine (readsOnly_listServices hP hkey hvalue s).bind fun t _ => ?_
  simp only [hfound, hreusable, if_true]
  exact .pure _ _

/-- A pod with a screen is registered, with a port outside, if no service has its name. -/
theorem registerNode_of_free (hbehind : Behind P.answer c s remoteHost ip pod)
    (hexposable : c.Exposable pod name slot port)
    (hfree : ∀ held ∈ (P.holds s).services, held.name? ≠ some name) :
    ∃ outside, (run P.answer (c.registerNode nodeName remoteHost).run s).1 =
      .ok ⟨name, ip, some outside⟩ := by
  have hlisted := (readsOnly_listPods hP hkey hvalue s).spares
  rw [run_perform] at hlisted
  have hname : (c.screenService name slot port).service.name? = some name := rfl
  obtain ⟨exposed, hensure, t, hcreated⟩ :=
    ensureService_of_free hP hkey hvalue hname (hlisted ▸ hfree)
  obtain ⟨hassigned, -, -⟩ := hP.performs.effect (Prod.ext hcreated rfl)
  obtain ⟨entry, outside, hfirst, houtside⟩ := outside_of_created hP hassigned ⟨t, hcreated⟩
  refine ⟨outside, ?_⟩
  rw [registerNode_exposed hbehind hexposable hensure,
    nodePort?_eq_some.2 ⟨entry, hfirst, houtside⟩]

/-- A registration that has succeeded succeeds again, with the same answer, by looking. -/
theorem registerNode_settled
    (h : run P.answer (c.registerNode nodeName remoteHost).run s = (.ok r, s'))
    {t : σ} (ht : P.holds t = P.holds s') (again : String) :
    ReadsOnly P (c.registerNode again remoteHost) t r := by
  obtain ⟨pod, ⟨hip, pods, hlisted, hfirst⟩, hname, hregistered⟩ :=
    registerNode_registered hP.performs h
  obtain ⟨rfl, -⟩ := hP.performs.listPods (Prod.ext hlisted rfl)
  -- the first registration has touched no pod, so the second listing is the first one
  have hpods : c.ownPods P (P.holds t) = c.ownPods P (P.holds s) := by
    rw [ownPods, ht, (hregistered.others hname).1]
    rfl
  rw [registerNode_eq hip]
  refine (readsOnly_listPods hP hkey hvalue t).bind fun t₁ ht₁ => ?_
  rw [hpods]
  rw [← ht] at hregistered
  generalize P.holds t = after at hregistered ht₁
  cases hregistered with
  | screenless hwanted =>
    exact (ReadsOnly.ofExcept (resolve_of_wanted hfirst hname hwanted)).bind fun t₂ _ => .pure _ _
  | exposed hwanted hensured =>
    refine (ReadsOnly.ofExcept (resolve_of_wanted hfirst hname hwanted)).bind fun t₂ ht₂ => ?_
    obtain ⟨slot, port, -, rfl⟩ := wantedService_ok hname hwanted
    obtain ⟨hfound, hreusable⟩ := hensured.settled hP hkey hvalue
    rw [← ht₁, ← ht₂] at hfound
    exact (readsOnly_ensureService hP hkey hvalue rfl hfound hreusable).bind fun t₃ _ => .pure _ _

/-- However often a registration is repeated, it gives the same answer by looking. -/
theorem registerAll_settled
    (h : run P.answer (c.registerNode nodeName remoteHost).run s = (.ok r, s'))
    (names : List String) {t : σ} (ht : P.holds t = P.holds s') :
    ReadsOnly P (c.registerAll (names.map (·, remoteHost))) t (List.replicate names.length r) := by
  induction names generalizing t with
  | nil => exact .pure _ _
  | cons again rest ih =>
    refine (registerNode_settled hP hkey hvalue h ht again).bind fun t₁ ht₁ => ?_
    exact (ih (ht₁.trans ht)).bind fun t₂ _ => .pure _ _

end Serving

/-! ### The end of a pod -/

theorem registerAll_others (hP : P.Performs) {announced : List (String × String)}
    {rs : List NodeRegistration} (hrs : ∀ r ∈ rs, r.containerId = name)
    (h : run P.answer (c.registerAll announced).run s = (.ok rs, s')) :
    (P.holds s').pods = (P.holds s).pods ∧
      (P.holds s').services.filter (·.name? ≠ some name) =
        (P.holds s).services.filter (·.name? ≠ some name) := by
  induction announced generalizing s rs with
  | nil =>
    cases h
    exact ⟨rfl, rfl⟩
  | cons node rest ih =>
    obtain ⟨r, s₁, hfirst, h⟩ := run_bind_eq_ok.1 h
    obtain ⟨later, s₂, hrest, h⟩ := run_bind_eq_ok.1 h
    cases h
    obtain ⟨pod, -, hname, hregistered⟩ := registerNode_registered hP hfirst
    obtain ⟨hpods, hservices⟩ := hregistered.others hname
    obtain ⟨hpods', hservices'⟩ := ih (fun r hr => hrs r (List.mem_cons_of_mem _ hr)) hrest
    rw [hrs r List.mem_cons_self] at hservices
    exact ⟨hpods'.trans hpods, hservices'.trans hservices⟩

theorem stopContainer_ok (hP : P.Performs)
    (h : run P.answer (stopContainer name).run s = (.ok (), s')) :
    P.holds s' = ((P.holds s).withoutPod name).withoutService name := by
  obtain ⟨_, s₁, hpod, hservice⟩ := run_bind_eq_ok.1 h
  rw [run_perform] at hpod hservice
  obtain ⟨hpods, hsame⟩ := hP.effect hpod
  obtain ⟨hservices, hsame'⟩ := hP.effect hservice
  exact Inventory.ext (hsame'.trans hpods) (hservices.trans (by rw [hsame]; rfl))

/-- The answers of `c.registerNode`, called for one pod once, again and any number of times, and
what `P` holds after `stopContainer` has ended that pod. -/
structure Repeatable (P : Platform σ) (c : Client) : Prop where
  /-- A pod with a screen can be registered if no service has its name. -/
  first : ∀ s nodeName remoteHost ip pod name slot port, Behind P.answer c s remoteHost ip pod →
    c.Exposable pod name slot port → (∀ held ∈ (P.holds s).services, held.name? ≠ some name) →
      ∃ outside, (run P.answer (c.registerNode nodeName remoteHost).run s).1 =
        .ok ⟨name, ip, some outside⟩
  /-- A registration that has succeeded succeeds again as long as the objects are the same, with the
  same answer, and only looks at them. -/
  again : ∀ s s' nodeName remoteHost r,
    run P.answer (c.registerNode nodeName remoteHost).run s = (.ok r, s') →
      ∀ t, P.holds t = P.holds s' → ∀ again, ReadsOnly P (c.registerNode again remoteHost) t r
  /-- So does any number of them. -/
  often : ∀ s s' nodeName remoteHost r,
    run P.answer (c.registerNode nodeName remoteHost).run s = (.ok r, s') →
      ∀ t, P.holds t = P.holds s' → ∀ names : List String,
        ReadsOnly P (c.registerAll (names.map (·, remoteHost))) t (List.replicate names.length r)
  /-- After any registrations of a pod, its end leaves what was there before without the pod and
  without a service of its name. -/
  stopped : ∀ s s₁ s₂ announced rs name,
    run P.answer (c.registerAll announced).run s = (.ok rs, s₁) →
      (∀ r ∈ rs, r.containerId = name) →
        run P.answer (stopContainer name).run s₁ = (.ok (), s₂) →
          P.holds s₂ = ((P.holds s).withoutPod name).withoutService name

/-- A pod can be registered any number of times, and then stopped without a trace. -/
theorem registerNode_repeatable (hP : P.Serves) (hkey : Label.isKey c.ownershipLabel = true)
    (hvalue : Label.isValue c.ownershipValue = true) : c.Repeatable P where
  first _ _ _ _ _ _ _ _ hbehind hexposable hfree :=
    registerNode_of_free hP hkey hvalue hbehind hexposable hfree
  again _ _ _ _ _ h _ ht again := registerNode_settled hP hkey hvalue h ht again
  often _ _ _ _ _ h _ ht names := registerAll_settled hP hkey hvalue h names ht
  stopped s s₁ s₂ announced rs name hall hrs hstop := by
    obtain ⟨hpods, hservices⟩ := registerAll_others hP.performs hrs hall
    rw [stopContainer_ok hP.performs hstop]
    refine Inventory.ext ?_ ?_
    · show (P.holds s₁).pods.filter _ = (P.holds s).pods.filter _
      rw [hpods]
    · exact hservices

/-- Two registrations of a pod with a screen, and its end. -/
theorem registerNode_repeatable_screen :
    ∃ after r final, run listPlatform.answer (registerNode {} "node" "http://10.1.0.1:5555").run
        screenOnly = (.ok r, after) ∧ after ≠ screenOnly ∧
      ReadsOnly listPlatform (registerNode {} "again" "http://10.1.0.1:5555") after r ∧
      run listPlatform.answer (stopContainer r.containerId).run after = (.ok (), final) ∧
      final = {} := by
  have hrepeatable : Repeatable listPlatform {} :=
    registerNode_repeatable Platform.listPlatform_serves (by decide) (by decide)
  have hrun : run listPlatform.answer (registerNode {} "node" "http://10.1.0.1:5555").run
      screenOnly = (.ok ⟨"node-1", "10.1.0.1", some 30000⟩, (screenOnly.createService
        (screenService {} "node-1" (Uuid.text ⟨1⟩) 7900).service).2) := by
    decide +kernel
  have hall : run listPlatform.answer
      (registerAll {} [("node", "http://10.1.0.1:5555")]).run screenOnly =
        (.ok [⟨"node-1", "10.1.0.1", some 30000⟩], _) :=
    run_bind_eq_ok.2 ⟨_, _, hrun, rfl⟩
  refine ⟨_, _, _, hrun, by decide +kernel, hrepeatable.again _ _ _ _ _ hrun _ rfl _, rfl, ?_⟩
  refine (hrepeatable.stopped _ _ _ _ _ "node-1" hall (by simp) rfl).trans ?_
  decide +kernel

end Client

end BrowserGrid.Cluster
