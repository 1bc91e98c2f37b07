import BrowserGrid.Proofs.Capability.Sightings
import BrowserGrid.Proofs.Registry.Routing

/-!
# What asking the matchers leaves in the table

Asking a matcher of the fleet about a slot notes what the slot offers, asking one of the cloud notes
nothing.  `shown` lists the offers that are noted when some slots are asked about a request, so that
the table afterwards is `Versions.noted`.  The admission of a request and the search for a slot are
both a way through a list of slots that ends at the first one that takes the request
(`askList`, `askAll`).
-/

namespace BrowserGrid.Registry

open Versions

/-! ### One matcher -/

/-- A slot whose matcher is asked: its proxy, and what it offers. -/
abbrev Asked := Proxy Versions × Capabilities

/-- The offers that are noted when some slots are asked about a request. -/
def shown (requested : Capabilities) (asked : List Asked) : List Capabilities :=
  if requested.browserName?.isSome then
    (asked.filter (·.1.kind = .container)).map (·.2)
  else []

@[simp] theorem shown_nil (requested : Capabilities) : shown requested [] = [] := by
  simp [shown]

theorem shown_append (requested : Capabilities) (asked more : List Asked) :
    shown requested (asked ++ more) = shown requested asked ++ shown requested more := by
  unfold shown
  split
  · rw [List.filter_append, List.map_append]
  · rfl

theorem judgeBy_fst (m : Matcher) (offered requested : Capabilities) (t : Versions) :
    (Proxy.judgeBy m offered requested t).1 = .ofBool (m.judge t offered requested).accepted := rfl

theorem judgeBy_snd (m : Matcher) (offered requested : Capabilities) (t : Versions) :
    (Proxy.judgeBy m offered requested t).2 = (m.judge t offered requested).versions := rfl

theorem judgeBy_ne_broken (m : Matcher) (offered requested : Capabilities) (t : Versions) :
    (Proxy.judgeBy m offered requested t).1 ≠ .broken := by
  rw [judgeBy_fst]
  cases (m.judge t offered requested).accepted <;> decide

namespace Routed

variable {p : Proxy Versions}

/-- The matchers of the hub answer. -/
theorem decides (h : Routed p) : Decides p := by
  intro offered requested t
  cases hkind : p.kind with
  | container =>
    obtain ⟨defaults, hjudge⟩ := h.of_container hkind
    rw [hjudge]
    exact judgeBy_ne_broken _ offered requested t
  | cloud =>
    rw [h.of_cloud hkind]
    exact judgeBy_ne_broken _ offered requested t

/-- The table has no say in what a slot of the fleet takes. -/
theorem judge_container (h : Routed p) (hkind : p.kind = .container)
    (offered requested : Capabilities) (t t' : Versions) :
    (p.judge offered requested t).1 = (p.judge offered requested t').1 := by
  obtain ⟨defaults, hjudge⟩ := h.of_container hkind
  rw [hjudge, judgeBy_fst, judgeBy_fst, fleet_accepted_eq defaults t t']

/-- A slot of the cloud takes what it takes when the table says that the fleet cannot serve it. -/
theorem judge_cloud_iff (h : Routed p) (hkind : p.kind = .cloud)
    (offered requested : Capabilities) (t : Versions) :
    (p.judge offered requested t).1 = .accepted ↔
      cloudTakes offered requested = true ∧ t.canServe requested = false := by
  rw [h.of_cloud hkind, judgeBy_accepted_iff, cloud_accepted, Bool.and_eq_true, Bool.not_eq_true']

theorem judge_snd (h : Routed p) (offered requested : Capabilities) (t : Versions) :
    (p.judge offered requested t).2 = t.noted (shown requested [(p, offered)]) := by
  cases hkind : p.kind with
  | container =>
    obtain ⟨defaults, hjudge⟩ := h.of_container hkind
    rw [hjudge, judgeBy_snd, fleet_versions, shown]
    simp only [hkind, List.filter_singleton, decide_true, cond_true, List.map_singleton]
    split <;> rfl
  | cloud =>
    rw [h.of_cloud hkind, judgeBy_snd, shown]
    simp only [hkind, List.filter_singleton, reduceCtorEq, decide_false, cond_false,
      List.map_nil, ite_self]
    rfl

/-- A slot that does not take a request refuses it. -/
theorem judge_eq_refused (h : Routed p) {offered requested : Capabilities} {t : Versions}
    (hnot : (p.judge offered requested t).1 ≠ .accepted) :
    p.judge offered requested t = (.refused, t.noted (shown requested [(p, offered)])) := by
  refine Prod.ext ?_ (h.judge_snd offered requested t)
  cases hverdict : (p.judge offered requested t).1 with
  | accepted => exact absurd hverdict hnot
  | refused => rfl
  | broken => exact absurd hverdict (h.decides offered requested t)

end Routed

/-! ### Who has a say -/

/-- A slot of the fleet states a version of the requested browser. -/
def States (requested : Capabilities) (a : Asked) : Prop :=
  a.1.kind = .container ∧ ∃ wanted, requested.browserName? = some wanted ∧
    stated? (browserKey wanted) a.2 ≠ none

theorem lastStated?_shown {requested : Capabilities} {wanted : String}
    (hwanted : requested.browserName? = some wanted) (asked : List Asked) :
    lastStated? (browserKey wanted) (shown requested asked) = none ↔
      ∀ a ∈ asked, ¬States requested a := by
  have hmem : ∀ offered, offered ∈ shown requested asked ↔
      ∃ a ∈ asked, a.1.kind = .container ∧ a.2 = offered := by
    intro offered
    simp [shown, hwanted, and_assoc]
  rw [lastStated?, List.findSome?_eq_none_iff]
  constructor
  · rintro hnone a ha ⟨hkind, w, hw, hstates⟩
    cases hwanted.symm.trans hw
    exact hstates (hnone a.2 (List.mem_reverse.2 ((hmem _).2 ⟨a, ha, hkind, rfl⟩)))
  · intro hunstated offered hoffered
    obtain ⟨a, ha, hkind, rfl⟩ := (hmem _).1 (List.mem_reverse.1 hoffered)
    by_contra hstates
    exact hunstated a ha ⟨hkind, wanted, hwanted, hstates⟩

/-- Where nobody states a version of the requested browser, what the table says stays. -/
theorem canServe_noted_of_unstated {requested : Capabilities} {asked : List Asked}
    (hunstated : ∀ a ∈ asked, ¬States requested a) (t : Versions) :
    (t.noted (shown requested asked)).canServe requested = t.canServe requested := by
  refine canServe_congr fun wanted hwanted => ?_
  rw [latest?, get?_noted, (lastStated?_shown hwanted asked).2 hunstated, Option.none_or, latest?]

/-- Where somebody states one, it does not matter what the table said. -/
theorem canServe_noted_of_stated {requested : Capabilities} {asked : List Asked}
    (hstated : ∃ a ∈ asked, States requested a) (t t' : Versions) :
    (t.noted (shown requested asked)).canServe requested =
      (t'.noted (shown requested asked)).canServe requested := by
  refine canServe_congr fun wanted hwanted => ?_
  obtain ⟨a, ha, hstates⟩ := hstated
  have hsome : lastStated? (browserKey wanted) (shown requested asked) ≠ none :=
    fun hnone => (lastStated?_shown hwanted asked).1 hnone a ha hstates
  obtain ⟨version, hversion⟩ := Option.ne_none_iff_exists'.1 hsome
  rw [latest?, latest?, get?_noted, get?_noted, hversion, Option.some_or, Option.some_or]

/-! ### One matcher after the other -/

/-- Ask about one slot after the other until one takes the request. -/
def askList (requested : Capabilities) : List Asked → Versions → Verdict × Versions
  | [], t => (.refused, t)
  | (p, offered) :: rest, t =>
    match p.judge offered requested t with
    | (.refused, t) => askList requested rest t
    | answer => answer

theorem askList_append (requested : Capabilities) (asked more : List Asked) (t : Versions) :
    askList requested (asked ++ more) t =
      match askList requested asked t with
      | (.refused, t) => askList requested more t
      | answer => answer := by
  induction asked generalizing t with
  | nil => rfl
  | cons a rest ih =>
    rw [List.cons_append, askList, askList]
    cases a.1.judge a.2 requested t with
    | mk verdict t =>
      cases verdict with
      | refused => exact ih t
      | accepted | broken => rfl

theorem firstAccepted_eq (p : Proxy Versions) (requested : Capabilities)
    (slots : List Capabilities) (t : Versions) :
    Proxy.firstAccepted p.judge requested slots t = askList requested (slots.map (p, ·)) t := by
  induction slots generalizing t with
  | nil => rfl
  | cons offered rest ih =>
    rw [Proxy.firstAccepted, List.map_cons, askList]
    cases p.judge offered requested t with
    | mk verdict t =>
      cases verdict with
      | refused => exact ih t
      | accepted | broken => rfl

/-- The slots of some proxies, busy or not. -/
def slotsOf (entries : List (Entry Versions)) : List Asked :=
  entries.flatMap fun e => e.proxy.slots.map (e.proxy, ·)

theorem anyServesList_eq (requested : Capabilities) (entries : List (Entry Versions))
    (t : Versions) :
    LiveProxies.anyServesList requested entries t = askList requested (slotsOf entries) t := by
  induction entries generalizing t with
  | nil => rfl
  | cons e rest ih =>
    rw [LiveProxies.anyServesList, Proxy.serves, firstAccepted_eq, slotsOf, List.flatMap_cons,
      askList_append]
    cases askList requested (e.proxy.slots.map (e.proxy, ·)) t with
    | mk verdict t =>
      cases verdict with
      | refused => exact ih t
      | accepted | broken => rfl

section askList

variable {requested : Capabilities} {asked : List Asked}

/-- Some slot takes the request when those in front of it have been asked. -/
def Taken (requested : Capabilities) (asked : List Asked) (t : Versions) : Prop :=
  ∃ front p offered back, asked = front ++ (p, offered) :: back ∧
    (p.judge offered requested (t.noted (shown requested front))).1 = .accepted

theorem taken_cons_iff {p : Proxy Versions} {offered : Capabilities} {t : Versions} :
    Taken requested ((p, offered) :: asked) t ↔
      (p.judge offered requested t).1 = .accepted ∨
        Taken requested asked (t.noted (shown requested [(p, offered)])) := by
  constructor
  · rintro ⟨front, q, offered', back, hsplit, htakes⟩
    cases front with
    | nil =>
      cases hsplit
      rw [shown_nil] at htakes
      exact .inl htakes
    | cons a front =>
      cases hsplit
      refine .inr ⟨front, q, offered', back, rfl, ?_⟩
      rwa [← noted_append, ← shown_append]
  · rintro (htakes | ⟨front, q, offered', back, rfl, htakes⟩)
    · refine ⟨[], p, offered, asked, rfl, ?_⟩
      rw [shown_nil]
      exact htakes
    · refine ⟨(p, offered) :: front, q, offered', back, rfl, ?_⟩
      rwa [← noted_append, ← shown_append] at htakes

theorem taken_map_iff {α : Type} {f : α → Asked} {xs : List α} {t : Versions} :
    Taken requested (xs.map f) t ↔ ∃ front x back, xs = front ++ x :: back ∧
      ((f x).1.judge (f x).2 requested (t.noted (shown requested (front.map f)))).1 =
        .accepted := by
  constructor
  · rintro ⟨front, p, offered, back, hsplit, htakes⟩
    obtain ⟨front, rest, rfl, rfl, hrest⟩ := List.map_eq_append_iff.1 hsplit
    obtain ⟨x, back, rfl, hx, rfl⟩ := List.map_eq_cons_iff.1 hrest
    exact ⟨front, x, back, rfl, by rwa [hx]⟩
  · rintro ⟨front, x, back, rfl, htakes⟩
    exact ⟨front.map f, (f x).1, (f x).2, back.map f, by simp, htakes⟩

/-- Some slot takes the request, or all refuse and the table notes what they have looked at. -/
theorem askList_cases (requested : Capabilities) (hrouted : ∀ a ∈ asked, Routed a.1)
    (t : Versions) :
    ((askList requested asked t).1 = .accepted ∧ Taken requested asked t) ∨
      (askList requested asked t = (.refused, t.noted (shown requested asked)) ∧
        ¬Taken requested asked t) := by
  induction asked generalizing t with
  | nil =>
    refine .inr ⟨by rw [shown_nil]; rfl, fun ⟨front, p, offered, back, hsplit, _⟩ => ?_⟩
    simp at hsplit
  | cons a rest ih =>
    obtain ⟨p, offered⟩ := a
    have hp : Routed p := hrouted (p, offered) List.mem_cons_self
    by_cases haccepted : (p.judge offered requested t).1 = .accepted
    · refine .inl ⟨?_, taken_cons_iff.2 (.inl haccepted)⟩
      rw [askList]
      split
      · rename_i hrefused
        rw [hrefused] at haccepted
        cases haccepted
      · exact haccepted
    · have hrefused := hp.judge_eq_refused haccepted
      have hshown : shown requested ((p, offered) :: rest) =
          shown requested [(p, offered)] ++ shown requested rest :=
        shown_append requested [(p, offered)] rest
      rw [askList, hrefused, taken_cons_iff, or_iff_right haccepted, hshown, noted_append]
      exact ih (fun a ha => hrouted a (List.mem_cons_of_mem _ ha)) _

theorem askList_accepted_iff (hrouted : ∀ a ∈ asked, Routed a.1) (t : Versions) :
    (askList requested asked t).1 = .accepted ↔ Taken requested asked t := by
  obtain ⟨haccepted, htaken⟩ | ⟨hrefused, hnot⟩ := askList_cases requested hrouted t
  · exact iff_of_true haccepted htaken
  · exact iff_of_false (by rw [hrefused]; exact nofun) hnot

/-- Whatever comes of it, some offers have been noted. -/
theorem askList_evolves (requested : Capabilities) (hrouted : ∀ a ∈ asked, Routed a.1)
    (t : Versions) : t.Evolves (askList requested asked t).2 := by
  induction asked generalizing t with
  | nil => exact .refl t
  | cons a rest ih =>
    have hnoted : (a.1.judge a.2 requested t).2 = t.noted (shown requested [(a.1, a.2)]) :=
      (hrouted a List.mem_cons_self).judge_snd a.2 requested t
    rw [askList]
    split
    · rename_i t' hrefused
      rw [hrefused] at hnoted
      exact Evolves.trans ⟨_, hnoted⟩ (ih (fun b hb => hrouted b (List.mem_cons_of_mem _ hb)) t')
    · exact ⟨_, hnoted⟩

end askList

/-! ### The search among routed proxies -/

/-- A place, as it is asked. -/
def Place.toAsked (place : Place Versions) : Asked := (place.proxy, place.offered)

/-- What the search says, as the answer of a matcher. -/
def Search.verdict : Search → Verdict
  | found .. => .accepted
  | nothing => .refused
  | broken => .broken

namespace LiveProxies

variable {live : LiveProxies Versions} {requested : Capabilities}

/-- The search is a way through the free places. -/
theorem searchList_askList (requested : Capabilities) (places : List (Place Versions))
    (t : Versions) :
    Prod.map Search.verdict id (searchList requested (places.map Place.toFreeSlot) t) =
      askList requested (places.map Place.toAsked) t := by
  induction places generalizing t with
  | nil => rfl
  | cons place rest ih =>
    rw [List.map_cons, List.map_cons, searchList, Place.toAsked, askList, Place.toFreeSlot]
    dsimp only
    cases place.proxy.judge place.offered requested t with
    | mk verdict t =>
      cases verdict with
      | refused => exact ih t
      | accepted | broken => rfl

theorem askAll_append {ω : Type} (requested : Capabilities) (front back : List (Place ω))
    (memory : ω) : askAll requested (front ++ back) memory =
      askAll requested back (askAll requested front memory) :=
  List.foldl_append

theorem askAll_eq_noted {places : List (Place Versions)}
    (hrouted : ∀ place ∈ places, Routed place.proxy) (t : Versions) :
    askAll requested places t = t.noted (shown requested (places.map Place.toAsked)) := by
  induction places generalizing t with
  | nil =>
    rw [List.map_nil, shown_nil]
    rfl
  | cons place rest ih =>
    have hshown : shown requested ((place :: rest).map Place.toAsked) =
        shown requested [place.toAsked] ++ shown requested (rest.map Place.toAsked) :=
      shown_append requested [place.toAsked] _
    rw [hshown, noted_append, ← ih fun q hq => hrouted q (List.mem_cons_of_mem _ hq), askAll,
      List.foldl_cons, (hrouted place List.mem_cons_self).judge_snd]
    rfl

/-- A place takes a request when the search comes to it. -/
def TakesAt (live : LiveProxies Versions) (requested : Capabilities) (t : Versions)
    (place : Place Versions) : Prop :=
  (place.proxy.judge place.offered requested (live.onTheWay requested place.slot t)).1 = .accepted

theorem taken_free_iff (hrouted : ∀ place ∈ live.places, Routed place.proxy) (t : Versions) :
    Taken requested ((live.places.filter Place.isFree).map Place.toAsked) t ↔
      ∃ place ∈ live.places, place.isFree ∧ live.TakesAt requested t place := by
  have hway : ∀ {front place back}, live.places.filter Place.isFree = front ++ place :: back →
      live.onTheWay requested place.slot t =
        t.noted (shown requested (front.map Place.toAsked)) := by
    intro front place back hsplit
    rw [onTheWay_of_split hsplit, askAll_eq_noted]
    intro q hq
    exact hrouted q (List.mem_of_mem_filter (hsplit ▸ List.mem_append_left _ hq))
  rw [taken_map_iff]
  constructor
  · rintro ⟨front, place, back, hsplit, htakes⟩
    have hmem : place ∈ live.places.filter Place.isFree :=
      hsplit ▸ List.mem_append_right _ List.mem_cons_self
    refine ⟨place, List.mem_of_mem_filter hmem, (List.mem_filter.1 hmem).2, ?_⟩
    rw [TakesAt, hway hsplit]
    exact htakes
  · rintro ⟨place, hplace, hfree, htakes⟩
    obtain ⟨front, back, hsplit⟩ := List.append_of_mem (List.mem_filter.2 ⟨hplace, hfree⟩)
    refine ⟨front, place, back, hsplit, ?_⟩
    rw [← hway hsplit]
    exact htakes

theorem routed_free (hrouted : ∀ place ∈ live.places, Routed place.proxy) :
    ∀ a ∈ (live.places.filter Place.isFree).map Place.toAsked, Routed a.1 := by
  intro a ha
  obtain ⟨place, hplace, rfl⟩ := List.mem_map.1 ha
  exact hrouted place (List.mem_of_mem_filter hplace)

/-- The search finds a slot if some free place takes the request when the search comes to it; else
it finds nothing, and all free places have been asked. -/
theorem firstFree_cases (hrouted : ∀ place ∈ live.places, Routed place.proxy)
    (requested : Capabilities) (t : Versions) :
    ((∃ slot offered t', live.firstFree requested t = (.found slot offered, t')) ∧
        ∃ place ∈ live.places, place.isFree ∧ live.TakesAt requested t place) ∨
      (live.firstFree requested t =
          (.nothing, askAll requested (live.places.filter Place.isFree) t) ∧
        ∀ place ∈ live.places, place.isFree → ¬live.TakesAt requested t place) := by
  have hfree : ∀ place ∈ live.places.filter Place.isFree, Routed place.proxy :=
    fun place hplace => hrouted place (List.mem_of_mem_filter hplace)
  have hsearch := searchList_askList requested (live.places.filter Place.isFree) t
  rw [← freeSlots_eq] at hsearch
  obtain ⟨haccepted, htaken⟩ | ⟨hrefused, hnot⟩ := askList_cases requested (routed_free hrouted) t
  · refine .inl ⟨?_, (taken_free_iff hrouted t).1 htaken⟩
    rw [← hsearch] at haccepted
    rw [firstFree]
    cases hresult : searchList requested (freeSlots live) t with
    | mk result t' =>
      rw [hresult] at haccepted
      cases result with
      | found slot offered => exact ⟨slot, offered, t', rfl⟩
      | nothing | broken => cases haccepted
  · refine .inr ⟨?_, fun place hplace hfree htakes =>
      hnot ((taken_free_iff hrouted t).2 ⟨place, hplace, hfree, htakes⟩)⟩
    rw [← hsearch, ← askAll_eq_noted hfree] at hrefused
    rw [firstFree]
    cases hresult : searchList requested (freeSlots live) t with
    | mk result t' =>
      rw [hresult] at hrefused
      cases result with
      | nothing => exact congrArg (Prod.mk _) (congrArg Prod.snd hrefused)
      | found | broken => cases congrArg Prod.fst hrefused

theorem takesAt_of_found (hrouted : ∀ place ∈ live.places, Routed place.proxy) {t t' : Versions}
    {slot : SlotId} {offered : Capabilities}
    (h : live.firstFree requested t = (.found slot offered, t')) :
    ∃ place ∈ live.places, place.isFree ∧ live.TakesAt requested t place := by
  obtain ⟨-, htaken⟩ | ⟨hnothing, -⟩ := firstFree_cases hrouted requested t
  · exact htaken
  · rw [h] at hnothing
    cases hnothing

theorem of_nothing (hrouted : ∀ place ∈ live.places, Routed place.proxy) {t t' : Versions}
    (h : live.firstFree requested t = (.nothing, t')) :
    t' = askAll requested (live.places.filter Place.isFree) t ∧
      ∀ place ∈ live.places, place.isFree → ¬live.TakesAt requested t place := by
  obtain ⟨⟨slot, offered, _, hfound⟩, -⟩ | ⟨hnothing, hnone⟩ := firstFree_cases hrouted requested t
  · rw [h] at hfound
    cases hfound
  · rw [h] at hnothing
    exact ⟨congrArg Prod.snd hnothing, hnone⟩

theorem evolves_askAll {places : List (Place Versions)}
    (hrouted : ∀ place ∈ places, Routed place.proxy) (requested : Capabilities) (t : Versions) :
    t.Evolves (askAll requested places t) :=
  ⟨_, askAll_eq_noted hrouted t⟩

theorem evolves_firstFree (hrouted : ∀ place ∈ live.places, Routed place.proxy) {t t' : Versions}
    {result : Search} (h : live.firstFree requested t = (result, t')) : t.Evolves t' := by
  have hevolves := askList_evolves requested (routed_free hrouted) t
  rw [← searchList_askList, ← freeSlots_eq] at hevolves
  rw [firstFree] at h
  rwa [h] at hevolves

theorem evolves_onTheWay (hrouted : ∀ place ∈ live.places, Routed place.proxy)
    (requested : Capabilities) (slot : SlotId) (t : Versions) :
    t.Evolves (live.onTheWay requested slot t) :=
  evolves_askAll (fun place hplace => hrouted place
    (List.mem_of_mem_filter ((List.takeWhile_sublist _).subset hplace))) requested t

/-- Asking all free places goes on from what the search sees at any of them. -/
theorem onTheWay_evolves (hrouted : ∀ place ∈ live.places, Routed place.proxy)
    {place : Place Versions} (hplace : place ∈ live.places) (hfree : place.isFree)
    (requested : Capabilities) (t : Versions) :
    (live.onTheWay requested place.slot t).Evolves
      (askAll requested (live.places.filter Place.isFree) t) := by
  obtain ⟨front, back, hsplit⟩ := List.append_of_mem (List.mem_filter.2 ⟨hplace, hfree⟩)
  rw [onTheWay_of_split hsplit, hsplit, askAll_append]
  exact evolves_askAll (fun q hq => hrouted q (List.mem_of_mem_filter (hsplit ▸
    List.mem_append_right _ hq))) requested _

/-- A place takes a request that it has refused before: it is one of the cloud, and another version
was seen by then than the one that the request insists on. -/
theorem cloud_of_takesAt {live' : LiveProxies Versions} {t t' : Versions}
    {old place : Place Versions} (hrouted : Routed place.proxy) (hslot : place.slot = old.slot)
    (hasked : place.toAsked = old.toAsked)
    (hevolves : (live.onTheWay requested old.slot t).Evolves
      (live'.onTheWay requested place.slot t'))
    (hrefused : ¬live.TakesAt requested t old) (htakes : live'.TakesAt requested t' place) :
    place.proxy.kind = .cloud ∧ cloudTakes place.offered requested = true ∧
      ∃ wanted version, requested.browserName? = some wanted ∧
        requested.pinnedVersion? = some version ∧
        ((live.onTheWay requested place.slot t).latest? wanted).map Text.trim =
          some (Text.trim version) ∧
        ((live'.onTheWay requested place.slot t').latest? wanted).map Text.trim ≠
          some (Text.trim version) := by
  have hproxy : old.proxy = place.proxy := (congrArg Prod.fst hasked).symm
  have hoffered : old.offered = place.offered := (congrArg Prod.snd hasked).symm
  rw [TakesAt, hproxy, hoffered, ← hslot] at hrefused
  rw [← hslot] at hevolves
  unfold TakesAt at htakes
  cases hkind : place.proxy.kind with
  | container =>
    rw [hrouted.judge_container hkind _ _ _ (live'.onTheWay requested place.slot t')] at hrefused
    exact absurd htakes hrefused
  | cloud =>
    rw [hrouted.judge_cloud_iff hkind] at htakes hrefused
    obtain ⟨hcloud, hcannot⟩ := htakes
    have hcan : (live.onTheWay requested place.slot t).canServe requested = true :=
      Bool.of_not_eq_false fun hno => hrefused ⟨hcloud, hno⟩
    exact ⟨rfl, hcloud, hevolves.version_lost hcan hcannot⟩

end LiveProxies

/-! ### Routed proxies -/

theorem routed_node (serial : Nat) (id : ProxyId) (registration : NodeRegistration)
    (offered : List Capabilities) (defaults : FleetDefaults) :
    Routed (.node serial id registration offered defaults) := ⟨defaults, rfl⟩

theorem routed_provider (serial : Nat) (provider : Provider) :
    Routed (.provider serial provider) := rfl

theorem routed_of_proxies {live : LiveProxies Versions} {proxies : List (Proxy Versions)}
    (hlive : live.values.map (·.proxy) = proxies) (hproxies : ∀ p ∈ proxies, Routed p) :
    ∀ id e, live.get? id = some e → Routed e.proxy := by
  intro id e he
  refine hproxies _ (hlive ▸ List.mem_map_of_mem ?_)
  exact List.mem_map.2 ⟨(id, e), KeyMap.get?_eq_some_iff.1 he, rfl⟩

/-- A request for a version of chrome, and an offer of it. -/
def chromeVersion (version : String) : Capabilities :=
  .ofList [("browserName", .str "chrome"), ("version", .str version)]

end BrowserGrid.Registry
