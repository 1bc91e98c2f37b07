import BrowserGrid.Proofs.Capability.Matching
import BrowserGrid.Proofs.KeyMap
import Mathlib.Data.List.Induction
import Mathlib.Data.List.Nodup

/-!
# What looking at offers leaves in the table of versions

A matcher of the fleet notes the version that an offer states, and the cloud answers from what was
noted last.  After many offers the table holds, for each browser, what the last offer that states a
version of it has stated, and where none does what it held before (`get?_noted`).  So looking at the
same offers again changes nothing (`noted_noted`).

What a table lets the fleet serve depends on its entry for the browser that is requested
(`canServe_congr`).  As entries are replaced and never dropped, the answer can only turn to no over
a version that the request insists on (`Evolves.version_lost`).
-/

namespace BrowserGrid

namespace Versions

/-! ### What an offer states -/

/-- The version that an offer states for the browser that stands under a key. -/
def stated? (key : String) (offered : Capabilities) : Option String :=
  (sighting? offered).bind fun (browser, version) =>
    if browserKey browser = key then some version else none

@[simp] theorem sighting?_namespaced (offered : Capabilities) :
    sighting? offered.namespaced = sighting? offered := by
  simp only [sighting?, Capabilities.browserName?_namespaced, Capabilities.version?_namespaced]

@[simp] theorem observe_namespaced (t : Versions) (offered : Capabilities) :
    t.observe offered.namespaced = t.observe offered := by
  rw [observe, sighting?_namespaced, observe]

theorem get?_observe (t : Versions) (offered : Capabilities) (key : String) :
    (t.observe offered).table.get? key = (stated? key offered).or (t.table.get? key) := by
  unfold observe stated?
  cases sighting? offered with
  | none => rfl
  | some sighting =>
    obtain ⟨browser, version⟩ := sighting
    show (t.table.insert (browserKey browser) version).get? key = _
    rw [KeyMap.get?_insert, Option.bind_some]
    by_cases hkey : browserKey browser = key
    · simp [hkey]
    · simp [hkey, Ne.symm hkey]

/-- The table after looking at some offers. -/
def noted (t : Versions) (offers : List Capabilities) : Versions := offers.foldl observe t

/-- What the last of some offers states that states a version. -/
def lastStated? (key : String) (offers : List Capabilities) : Option String :=
  offers.reverse.findSome? (stated? key)

theorem get?_noted (t : Versions) (offers : List Capabilities) (key : String) :
    (t.noted offers).table.get? key = (lastStated? key offers).or (t.table.get? key) := by
  induction offers using List.reverseRecOn with
  | nil => rfl
  | append_singleton offers offered ih =>
    rw [noted, List.foldl_append, List.foldl_cons, List.foldl_nil, get?_observe]
    show (stated? key offered).or ((t.noted offers).table.get? key) = _
    rw [ih, lastStated?, lastStated?, List.reverse_append, List.findSome?_append, Option.or_assoc,
      List.reverse_singleton, List.findSome?_singleton]

theorem noted_append (t : Versions) (offers more : List Capabilities) :
    t.noted (offers ++ more) = (t.noted offers).noted more :=
  List.foldl_append ..

/-- Looking again at what was looked at changes nothing. -/
theorem noted_noted (t : Versions) (offers : List Capabilities) :
    (t.noted offers).noted offers = t.noted offers := by
  have htable : ((t.noted offers).noted offers).table = (t.noted offers).table := by
    refine KeyMap.ext_get? fun key => ?_
    rw [get?_noted, get?_noted, ← Option.or_assoc, Option.or_self]
  generalize (t.noted offers).noted offers = twice at htable
  cases twice
  cases htable
  rfl

/-- The table `t'` is `t` after some offers were noted. -/
def Evolves (t t' : Versions) : Prop := ∃ offers, t' = t.noted offers

theorem Evolves.refl (t : Versions) : t.Evolves t := ⟨[], rfl⟩

theorem Evolves.trans {t t' t'' : Versions} (h : t.Evolves t') (h' : t'.Evolves t'') :
    t.Evolves t'' := by
  obtain ⟨offers, rfl⟩ := h
  obtain ⟨more, rfl⟩ := h'
  exact ⟨offers ++ more, (noted_append ..).symm⟩

/-- Entries are replaced and never dropped. -/
theorem Evolves.kept {t t' : Versions} (h : t.Evolves t') {key : String}
    (hsome : (t.table.get? key).isSome = true) : (t'.table.get? key).isSome = true := by
  obtain ⟨offers, rfl⟩ := h
  rw [get?_noted, Option.isSome_or, hsome, Bool.or_true]

/-! ### What the fleet can serve -/

/-- What the table says for a request depends on its entry for the requested browser. -/
theorem canServe_congr {t t' : Versions} {requested : Capabilities}
    (h : ∀ wanted, requested.browserName? = some wanted → t.latest? wanted = t'.latest? wanted) :
    t.canServe requested = t'.canServe requested := by
  unfold canServe
  cases hwanted : requested.browserName? with
  | none => rfl
  | some wanted => rw [Option.bind_some, Option.bind_some, h wanted hwanted]

/-- Who insists on a version that was not seen last is not served. -/
theorem canServe_eq_false_of_version {t : Versions} {requested : Capabilities}
    {wanted version : String} (hwanted : requested.browserName? = some wanted)
    (hversion : requested.pinnedVersion? = some version)
    (hother : (t.latest? wanted).map Text.trim ≠ some (Text.trim version)) :
    t.canServe requested = false := by
  unfold canServe
  rw [hwanted, Option.bind_some, hversion]
  cases hknown : t.latest? wanted with
  | none => rfl
  | some known =>
    have hne : Text.trim known ≠ Text.trim version := fun heq => hother (by rw [hknown, ← heq]; rfl)
    simp [hne]

/-- Looking at offers takes a yes back only over the version that the request insists on. -/
theorem Evolves.version_lost {t t' : Versions} (hevolves : t.Evolves t') {requested : Capabilities}
    (hcan : t.canServe requested = true) (hcannot : t'.canServe requested = false) :
    ∃ wanted version, requested.browserName? = some wanted ∧
      requested.pinnedVersion? = some version ∧
      (t.latest? wanted).map Text.trim = some (Text.trim version) ∧
      (t'.latest? wanted).map Text.trim ≠ some (Text.trim version) := by
  unfold canServe at hcan hcannot
  cases hwanted : requested.browserName? with
  | none => simp [hwanted] at hcan
  | some wanted =>
    rw [hwanted, Option.bind_some] at hcan hcannot
    cases hknown : t.latest? wanted with
    | none => simp [hknown] at hcan
    | some known =>
      obtain ⟨known', hknown'⟩ : ∃ known', t'.latest? wanted = some known' :=
        Option.isSome_iff_exists.1 (hevolves.kept (Option.isSome_of_eq_some hknown))
      rw [hknown, Bool.and_eq_true] at hcan
      rw [hknown'] at hcannot
      -- the platform has nothing to do with the table, so it is the version that is refused
      rcases Bool.and_eq_false_iff.1 hcannot with hother | hlinux
      · cases hversion : requested.pinnedVersion? with
        | none => simp [hversion] at hother
        | some version =>
          rw [hversion] at hother hcan
          refine ⟨wanted, version, rfl, rfl, ?_, ?_⟩
          · rw [hknown, Option.map_some]
            exact congrArg some (eq_of_beq hcan.1)
          · rw [hknown', Option.map_some]
            exact fun heq => (beq_eq_false_iff_ne.1 hother) (Option.some.inj heq)
      · rw [hlinux] at hcan
        exact absurd hcan.2 Bool.false_ne_true

/-! ### What the matchers say and note -/

/-- Whether a slot of the cloud takes a request that the fleet cannot serve. -/
def cloudTakes (offered requested : Capabilities) : Bool :=
  requested.browserName?.isSome &&
    (offered.browserName?.isNone || standardMatch offered.namespaced requested.namespaced)

theorem cloud_accepted (t : Versions) (offered requested : Capabilities) :
    (Matcher.cloud.judge t offered requested).accepted =
      (cloudTakes offered requested && !t.canServe requested) := by
  simp only [Matcher.judge, Matcher.cloudAccepts, cloudTakes, canServe_namespaced,
    Capabilities.browserName?_namespaced]
  cases requested.browserName?.isSome <;> cases t.canServe requested <;> simp

theorem fleet_versions (defaults : FleetDefaults) (t : Versions)
    (offered requested : Capabilities) :
    ((Matcher.fleet defaults).judge t offered requested).versions =
      if requested.browserName?.isSome then t.observe offered else t := by
  simp only [Matcher.judge, Matcher.fleetJudge, Capabilities.browserName?_namespaced]
  cases requested.browserName? with
  | none => rfl
  | some wanted => simp only [observe_namespaced, Option.isSome_some, if_true]

end Versions

end BrowserGrid
