import BrowserGrid.Proofs.Registry.Asking

/-!
# When a rejection is not final

A request is admitted if some registered proxy could ever serve it or a node could be started for
it.  The proxies are asked one after the other, and those of the fleet note the versions that they
offer, so a proxy of the cloud answers from a table that the rejection may leave different.

* `rejection_final_iff`: a rejected request would be accepted right afterwards by a proxy exactly if
  a slot of the cloud takes it and the table that was left says that the fleet cannot serve it, and
  it is admitted when it is made again exactly if moreover no proxy of the fleet in front of that
  one states a version of the browser; otherwise making it again changes nothing.
-/

namespace BrowserGrid.Registry

open Versions

variable {s : Setting Versions} {r : Registry Versions} {requested : Capabilities}

/-! ### What a rejection says -/

/-- The slots of all registered proxies, in the order in which they are asked. -/
def allSlots (r : Registry Versions) : List Asked := slotsOf r.live.values

theorem mem_allSlots {a : Asked} : a ∈ r.allSlots ↔
    ∃ id e, r.live.get? id = some e ∧ a.1 = e.proxy ∧ a.2 ∈ e.proxy.slots := by
  constructor
  · intro ha
    obtain ⟨e, he, ha⟩ := List.mem_flatMap.1 ha
    obtain ⟨offered, hoffered, rfl⟩ := List.mem_map.1 ha
    obtain ⟨⟨id, e⟩, hmem, rfl⟩ := List.mem_map.1 he
    exact ⟨id, e, KeyMap.get?_eq_some_iff.2 hmem, rfl, hoffered⟩
  · rintro ⟨id, e, he, hproxy, hoffered⟩
    have hmem : e ∈ r.live.values :=
      List.mem_map.2 ⟨(id, e), KeyMap.get?_eq_some_iff.1 he, rfl⟩
    exact List.mem_flatMap.2 ⟨e, hmem, List.mem_map.2 ⟨a.2, hoffered, by rw [← hproxy]⟩⟩

theorem routed_allSlots (hrouted : ∀ id e, r.live.get? id = some e → Routed e.proxy) :
    ∀ a ∈ r.allSlots, Routed a.1 := by
  intro a ha
  obtain ⟨id, e, he, hproxy, -⟩ := mem_allSlots.1 ha
  rw [hproxy]
  exact hrouted id e he

theorem anyServes_eq (r : Registry Versions) (requested : Capabilities) (t : Versions) :
    LiveProxies.anyServes r.live requested t = askList requested r.allSlots t :=
  anyServesList_eq requested r.live.values t

theorem submit_of_taken (hrouted : ∀ id e, r.live.get? id = some e → Routed e.proxy)
    (hrunning : r.stopped = false) {t : Versions} (htaken : Taken requested r.allSlots t) :
    (r.submit s requested t).1 = .ok (nextRequest s r requested).id := by
  obtain ⟨haccepted, -⟩ | ⟨-, hnot⟩ :=
    askList_cases requested (routed_allSlots hrouted) t
  · simp [submit, hrunning, servable, anyServes_eq, haccepted]
  · exact absurd htaken hnot

/-- When no slot takes the request, the provisioner decides by the table that the slots leave. -/
theorem submit_of_not_taken (hrouted : ∀ id e, r.live.get? id = some e → Routed e.proxy)
    (hrunning : r.stopped = false) {t : Versions} (hnot : ¬Taken requested r.allSlots t) :
    r.submit s requested t =
      if s.canProvision requested (t.noted (shown requested r.allSlots)) then
        (.ok (nextRequest s r requested).id, r.enqueue (nextRequest s r requested),
          t.noted (shown requested r.allSlots))
      else (.error (.noMatchingProxy requested.text), r,
        t.noted (shown requested r.allSlots)) := by
  obtain ⟨-, htaken⟩ | ⟨hrefused, -⟩ :=
    askList_cases requested (routed_allSlots hrouted) t
  · exact absurd htaken hnot
  · simp [submit, hrunning, servable, anyServes_eq, hrefused]

/-- A rejected request was taken by no slot and could not be provisioned for. -/
structure Rejected (s : Setting Versions) (r : Registry Versions) (requested : Capabilities)
    (t t' : Versions) : Prop where
  running : r.stopped = false
  not_taken : ¬Taken requested r.allSlots t
  noted_eq : t' = t.noted (shown requested r.allSlots)
  unable : s.canProvision requested t' = false

theorem rejected_of_submit (hrouted : ∀ id e, r.live.get? id = some e → Routed e.proxy)
    {r' : Registry Versions} {t t' : Versions} {text : String}
    (h : r.submit s requested t = (.error (.noMatchingProxy text), r', t')) :
    r' = r ∧ text = requested.text ∧ Rejected s r requested t t' := by
  have hrunning : r.stopped = false := by
    cases hstopped : r.stopped with
    | false => rfl
    | true => simp [submit, hstopped] at h
  have hnot : ¬Taken requested r.allSlots t := by
    intro htaken
    have hok := submit_of_taken (s := s) hrouted hrunning htaken
    rw [h] at hok
    cases hok
  rw [submit_of_not_taken hrouted hrunning hnot] at h
  split at h
  · cases h
  · rename_i hunable
    cases h
    exact ⟨rfl, rfl, hrunning, hnot, rfl, by simpa using hunable⟩

/-! ### Asking again -/

/-- The slots that have refused the request would take it now exactly if one of the cloud takes it,
the table now says that the fleet cannot serve it, and nobody in front states a version. -/
theorem taken_again_iff {asked : List Asked} (hrouted : ∀ a ∈ asked, Routed a.1) {t : Versions}
    (hnot : ¬Taken requested asked t) :
    Taken requested asked (t.noted (shown requested asked)) ↔
      (t.noted (shown requested asked)).canServe requested = false ∧
        ∃ front p offered back, asked = front ++ (p, offered) :: back ∧ p.kind = .cloud ∧
          cloudTakes offered requested = true ∧ ∀ a ∈ front, ¬States requested a := by
  have hat : ∀ {front p offered back}, asked = front ++ (p, offered) :: back →
      Routed p ∧ (p.judge offered requested (t.noted (shown requested front))).1 ≠ .accepted :=
    fun {front p offered back} hsplit =>
      ⟨hrouted (p, offered) (by rw [hsplit]; exact List.mem_append_right _ List.mem_cons_self),
        fun haccepted => hnot ⟨front, p, offered, back, hsplit, haccepted⟩⟩
  constructor
  · rintro ⟨front, p, offered, back, hsplit, haccepted⟩
    obtain ⟨hp, hrefused⟩ := hat hsplit
    cases hkind : p.kind with
    | container =>
      -- a slot of the fleet says now what it has said before
      exact absurd (hp.judge_container hkind .. ▸ haccepted) hrefused
    | cloud =>
      rw [hp.judge_cloud_iff hkind] at haccepted
      rw [Ne, hp.judge_cloud_iff hkind] at hrefused
      obtain ⟨htakes, hcannot⟩ := haccepted
      have hunstated : ∀ a ∈ front, ¬States requested a := by
        intro a ha hstates
        refine hrefused ⟨htakes, ?_⟩
        rw [← hcannot]
        exact canServe_noted_of_stated ⟨a, ha, hstates⟩ ..
      rw [canServe_noted_of_unstated hunstated] at hcannot
      exact ⟨hcannot, front, p, offered, back, hsplit, hkind, htakes, hunstated⟩
  · rintro ⟨hcannot, front, p, offered, back, hsplit, hkind, htakes, hunstated⟩
    refine ⟨front, p, offered, back, hsplit, ?_⟩
    rw [(hat hsplit).1.judge_cloud_iff hkind, canServe_noted_of_unstated hunstated]
    exact ⟨htakes, hcannot⟩

/-- A proxy of the cloud takes what one of its slots takes and the fleet cannot serve. -/
theorem taken_cloud_iff {p : Proxy Versions} (hp : Routed p) (hkind : p.kind = .cloud)
    (slots : List Capabilities) (t : Versions) :
    Taken requested (slots.map (p, ·)) t ↔
      t.canServe requested = false ∧ ∃ offered ∈ slots, cloudTakes offered requested = true := by
  have hunstated : ∀ front : List Capabilities, ∀ a ∈ front.map (p, ·), ¬States requested a := by
    rintro front a ha ⟨hcontainer, -⟩
    obtain ⟨offered, -, rfl⟩ := List.mem_map.1 ha
    rw [hkind] at hcontainer
    cases hcontainer
  rw [taken_map_iff]
  constructor
  · rintro ⟨front, offered, back, rfl, haccepted⟩
    rw [hp.judge_cloud_iff hkind, canServe_noted_of_unstated (hunstated front)] at haccepted
    exact ⟨haccepted.2, offered, by simp, haccepted.1⟩
  · rintro ⟨hcannot, offered, hoffered, htakes⟩
    obtain ⟨front, back, rfl⟩ := List.append_of_mem hoffered
    refine ⟨front, offered, back, rfl, ?_⟩
    rw [hp.judge_cloud_iff hkind, canServe_noted_of_unstated (hunstated front)]
    exact ⟨htakes, hcannot⟩

/-- After the slots have refused a request, a registered proxy could serve it exactly if one of the
cloud takes it and the table now says that the fleet cannot serve it. -/
theorem serves_again_iff (hrouted : ∀ id e, r.live.get? id = some e → Routed e.proxy)
    {t : Versions} (hnot : ¬Taken requested r.allSlots t) (t' : Versions) :
    (∃ id e, r.live.get? id = some e ∧ (e.proxy.serves requested t').1 = .accepted) ↔
      t'.canServe requested = false ∧
        ∃ a ∈ r.allSlots, a.1.kind = .cloud ∧ cloudTakes a.2 requested = true := by
  have hserves : ∀ id e, r.live.get? id = some e →
      ((e.proxy.serves requested t').1 = .accepted ↔
        Taken requested (e.proxy.slots.map (e.proxy, ·)) t') := by
    intro id e he
    rw [Proxy.serves, firstAccepted_eq, askList_accepted_iff]
    intro a ha
    obtain ⟨_, -, rfl⟩ := List.mem_map.1 ha
    exact hrouted id e he
  constructor
  · rintro ⟨id, e, he, haccepted⟩
    rw [hserves id e he] at haccepted
    cases hkind : e.proxy.kind with
    | container =>
      obtain ⟨front, offered, back, hslots, htakes⟩ := taken_map_iff.1 haccepted
      have hoffered : offered ∈ e.proxy.slots := hslots ▸ by simp
      -- this slot has refused the request before, and it does so with any table
      obtain ⟨before, after, hbefore⟩ :=
        List.append_of_mem (mem_allSlots (a := (e.proxy, offered)).2 ⟨id, e, he, rfl, hoffered⟩)
      refine absurd ⟨before, e.proxy, offered, after, hbefore, ?_⟩ hnot
      rw [(hrouted id e he).judge_container hkind]
      exact htakes
    | cloud =>
      obtain ⟨hcannot, offered, hoffered, htakes⟩ :=
        (taken_cloud_iff (hrouted id e he) hkind ..).1 haccepted
      exact ⟨hcannot, (e.proxy, offered), mem_allSlots.2 ⟨id, e, he, rfl, hoffered⟩, hkind, htakes⟩
  · rintro ⟨hcannot, a, ha, hkind, htakes⟩
    obtain ⟨id, e, he, hproxy, hoffered⟩ := mem_allSlots.1 ha
    rw [hproxy] at hkind
    exact ⟨id, e, he, (hserves id e he).2
      ((taken_cloud_iff (hrouted id e he) hkind ..).2 ⟨hcannot, a.2, hoffered, htakes⟩)⟩

/-! ### When a rejection is final -/

/-- A rejection leaves the registry as it was.  With the table that it leaves, some proxy could
serve the request exactly if one of the cloud takes it and the table says that the fleet cannot
serve it.  The request is admitted when it is made again exactly if moreover no slot of the fleet in
front of a slot that takes it states a version of the browser; if it is not admitted, it is rejected
as before and nothing changes. -/
theorem rejection_final_iff (hrouted : ∀ id e, r.live.get? id = some e → Routed e.proxy)
    {r' : Registry Versions} {table table' : Versions} {text : String}
    (hsubmit : r.submit s requested table = (.error (.noMatchingProxy text), r', table')) :
    r' = r ∧
      ((∃ id e, r.live.get? id = some e ∧ (e.proxy.serves requested table').1 = .accepted) ↔
        table'.canServe requested = false ∧
          ∃ a ∈ r.allSlots, a.1.kind = .cloud ∧ cloudTakes a.2 requested = true) ∧
      ((∃ id, (r.submit s requested table').1 = .ok id) ↔
        table'.canServe requested = false ∧
          ∃ front p offered back, r.allSlots = front ++ (p, offered) :: back ∧
            p.kind = .cloud ∧ cloudTakes offered requested = true ∧
            ∀ a ∈ front, ¬States requested a) ∧
      ((∀ id, (r.submit s requested table').1 ≠ .ok id) →
        r.submit s requested table' = (.error (.noMatchingProxy text), r, table')) := by
  obtain ⟨rfl, rfl, hrunning, hnot, rfl, hunable⟩ := rejected_of_submit hrouted hsubmit
  have htaken := taken_again_iff (routed_allSlots hrouted) hnot
  refine ⟨rfl, serves_again_iff hrouted hnot _, ?_, fun hrejected => ?_⟩
  · rw [← htaken]
    constructor
    · rintro ⟨id, hok⟩
      by_contra hagain
      rw [submit_of_not_taken hrouted hrunning hagain, noted_noted, hunable] at hok
      cases hok
    · exact fun hagain => ⟨_, submit_of_taken hrouted hrunning hagain⟩
  · have hagain : ¬Taken requested r'.allSlots (table.noted (shown requested r'.allSlots)) :=
      fun hagain => hrejected _ (submit_of_taken hrouted hrunning hagain)
    rw [submit_of_not_taken hrouted hrunning hagain, noted_noted, hunable]
    rfl

/-! ### A rejection that is taken back -/

/-- A cloud provider and a node with a newer chrome than the one that was seen last. -/
def updatedGrid : System Versions :=
  (System.initial (.ofList [("chrome", "120.0")])).run countingSetting
    [.begin (.add cloudProxy) {}, .resume 0 true,
      .begin (.add (fleetNode (chromeVersion "121.0"))) {}, .resume 1 true]

theorem routed_updatedGrid :
    ∀ id e, updatedGrid.registry.live.get? id = some e → Routed e.proxy := by
  have hproxies : updatedGrid.registry.live.values.map (·.proxy) =
      [cloudProxy, fleetNode (chromeVersion "121.0")] := by
    with_unfolding_all rfl
  refine routed_of_proxies hproxies ?_
  simp only [List.forall_mem_cons]
  exact ⟨routed_provider .., routed_node .., nofun⟩

/-- The table that the rejection leaves says that the fleet cannot serve the request, and the first
slot that is asked is that of the cloud provider. -/
theorem rejection_final_iff_updated :
    ∃ text r' table',
      updatedGrid.registry.submit countingSetting (chromeVersion "120.0") updatedGrid.memory =
        (.error (.noMatchingProxy text), r', table') ∧
      (∃ id e, updatedGrid.registry.live.get? id = some e ∧
        (e.proxy.serves (chromeVersion "120.0") table').1 = .accepted) ∧
      ∃ id, (updatedGrid.registry.submit countingSetting (chromeVersion "120.0") table').1 =
        .ok id := by
  have hrejected : (updatedGrid.registry.submit countingSetting (chromeVersion "120.0")
      updatedGrid.memory).1 = .error (.noMatchingProxy (chromeVersion "120.0").text) := by
    decide +kernel
  have hcannot : (updatedGrid.registry.submit countingSetting (chromeVersion "120.0")
      updatedGrid.memory).2.2.canServe (chromeVersion "120.0") = false := by
    decide +kernel
  obtain ⟨offered, back, hslots, htakes⟩ : ∃ offered back,
      updatedGrid.registry.allSlots = (cloudProxy, offered) :: back ∧
        cloudTakes offered (chromeVersion "120.0") = true :=
    ⟨_, _, by with_unfolding_all rfl, by decide +kernel⟩
  have hsubmit : updatedGrid.registry.submit countingSetting (chromeVersion "120.0")
      updatedGrid.memory = (.error (.noMatchingProxy (chromeVersion "120.0").text), _, _) :=
    Prod.ext hrejected rfl
  obtain ⟨-, hserves, hagain, -⟩ := rejection_final_iff routed_updatedGrid hsubmit
  refine ⟨_, _, _, hsubmit, hserves.2 ⟨hcannot, (cloudProxy, offered), ?_, rfl, htakes⟩,
    hagain.2 ⟨hcannot, [], cloudProxy, offered, back, hslots, rfl, htakes, ?_⟩⟩
  · rw [hslots]
    exact List.mem_cons_self
  · exact fun _ h => absurd h List.not_mem_nil

/-- Among nodes and cloud providers, a request is rejected, and right afterwards a proxy could serve
it and it is admitted. -/
theorem rejection_taken_back :
    (∀ id e, updatedGrid.registry.live.get? id = some e → Routed e.proxy) ∧
      let first := updatedGrid.registry.submit countingSetting (chromeVersion "120.0")
        updatedGrid.memory
      first.1 = .error (.noMatchingProxy (chromeVersion "120.0").text) ∧
        (∃ e ∈ first.2.1.live.values,
          (e.proxy.serves (chromeVersion "120.0") first.2.2).1 = .accepted) ∧
        (first.2.1.submit countingSetting (chromeVersion "120.0") first.2.2).1 = .ok ⟨⟨0⟩⟩ := by
  refine ⟨routed_updatedGrid, ?_⟩
  decide +kernel

end BrowserGrid.Registry
