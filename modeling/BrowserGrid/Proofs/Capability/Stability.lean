import BrowserGrid.Proofs.Capability.Namespacing
import BrowserGrid.Proofs.Capability.LocalFirst

/-!
# What a call of a matcher leaves

A matcher of the fleet or of the cloud moves the custom keys of both maps, and nothing else in them.
The fleet's also writes the table of versions: the entry of the browser that is offered, if the
request names a browser and the offer states a version of a tracked one (`Noticed`,
`fleet_writes`).  As the second move and the second note change nothing, a call on what a call has
left is the same judgement (`judge_judge_fleet`, `judge_judge_cloud`).
-/

namespace BrowserGrid.Matcher

open Capabilities Versions

variable {offered requested : Capabilities}

/-! ### The judgement as a whole -/

theorem judge_fleet (defaults : FleetDefaults) (table : Versions)
    (offered requested : Capabilities) :
    (fleet defaults).judge table offered requested =
      ⟨((fleet defaults).judge .empty offered requested).accepted, offered.namespaced,
        requested.namespaced,
        if requested.browserName?.isSome then table.observe offered else table⟩ := by
  simp only [judge, fleetJudge, browserName?_namespaced]
  cases requested.browserName? with
  | none => rfl
  | some wanted => simp only [observe_namespaced, Option.isSome_some, if_true]

theorem fleet_accepted_namespaced (defaults : FleetDefaults) (table table' : Versions) :
    ((fleet defaults).judge table offered.namespaced requested.namespaced).accepted =
      ((fleet defaults).judge table' offered requested).accepted := by
  rw [fleet_accepted_eq defaults table table']
  simp only [judge, namespaced_namespaced]

/-- A second call on what the first has left changes nothing. -/
theorem judge_judge_fleet (defaults : FleetDefaults) (table : Versions)
    (offered requested : Capabilities) :
    let left := (fleet defaults).judge table offered requested
    (fleet defaults).judge left.versions left.offered left.requested = left := by
  dsimp only
  rw [judge_fleet defaults table]
  dsimp only
  rw [judge_fleet, fleet_accepted_namespaced defaults _ .empty, namespaced_namespaced,
    namespaced_namespaced, browserName?_namespaced, observe_namespaced]
  split
  · -- what was noted once is noted
    have hnoted : (table.observe offered).observe offered = table.observe offered :=
      noted_noted table [offered]
    rw [hnoted]
  · rfl

theorem judge_judge_cloud (table : Versions) (offered requested : Capabilities) :
    let left := cloud.judge table offered requested
    cloud.judge left.versions left.offered left.requested = left := by
  simp only [judge, namespaced_namespaced]

/-! ### What is written into the table -/

/-- A request that names a browser is compared with an offer that states a version of a tracked
one. -/
structure Noticed (offered requested : Capabilities) (name version : String) : Prop where
  named : requested.browserName?.isSome = true
  browser : offered.browserName? = some name
  tracked : Text.lower name ∈ tracked
  states : offered.version? = some version
  unblank : Text.trim version ≠ ""

theorem Noticed.sighting? {name version : String} (h : Noticed offered requested name version) :
    sighting? offered = some (Text.lower name, Text.trim version) := by
  have htrimmed : Text.trimmed? version = some (Text.trim version) :=
    Text.trimmed?_eq_some_iff.2 ⟨rfl, h.unblank⟩
  simp [Versions.sighting?, h.browser, h.states, htrimmed, h.tracked]

theorem exists_noticed_of_sighting? (hnamed : requested.browserName?.isSome = true)
    (h : (sighting? offered).isSome = true) :
    ∃ name version, Noticed offered requested name version := by
  obtain ⟨sighting, hsighting⟩ := Option.isSome_iff_exists.1 h
  simp only [Versions.sighting?, Option.bind_eq_bind, Option.bind_eq_some_iff] at hsighting
  obtain ⟨name, hname, trimmed, ⟨version, hversion, htrimmed⟩, hsighting⟩ := hsighting
  obtain ⟨rfl, hstated⟩ := Text.trimmed?_eq_some_iff.1 htrimmed
  split at hsighting
  · rename_i htracked
    exact ⟨name, version, hnamed, hname, by simpa using htracked, hversion, hstated⟩
  · cases hsighting

theorem browserKey_of_tracked {browser : String} (h : browser ∈ tracked) :
    browserKey browser = browser := by
  have hall : ∀ browser ∈ tracked, browserKey browser = browser := by decide +kernel
  exact hall browser h

/-- The entry of the browser that is offered becomes the version that is stated, and every other
entry is kept. -/
theorem get?_fleet_versions (defaults : FleetDefaults) (table : Versions) {name version : String}
    (h : Noticed offered requested name version) (key : String) :
    ((fleet defaults).judge table offered requested).versions.table.get? key =
      if key = Text.lower name then some (Text.trim version) else table.table.get? key := by
  have hstated : stated? key offered =
      if key = Text.lower name then some (Text.trim version) else none := by
    rw [stated?, h.sighting?, Option.bind_some]
    dsimp only
    rw [browserKey_of_tracked h.tracked]
    simp only [eq_comm]
  rw [fleet_versions, if_pos h.named, get?_observe, hstated]
  split
  · rw [Option.some_or]
  · rw [Option.none_or]

theorem fleet_versions_of_unnoticed (defaults : FleetDefaults) (table : Versions)
    (h : ∀ name version, ¬Noticed offered requested name version) :
    ((fleet defaults).judge table offered requested).versions = table := by
  rw [fleet_versions]
  split
  · rename_i hnamed
    have hnone : sighting? offered = none := by
      cases hsighting : sighting? offered with
      | none => rfl
      | some sighting =>
        obtain ⟨name, version, hnoticed⟩ :=
          exists_noticed_of_sighting? hnamed (by rw [hsighting]; rfl)
        exact absurd hnoticed (h name version)
    rw [observe, hnone]
  · rfl

/-! ### The frame of a call -/

/-- A call leaves the two maps with their custom keys moved, and a call on what is left is the same
judgement. -/
structure Settles (m : Matcher) (table : Versions) (offered requested : Capabilities) : Prop where
  offer : (m.judge table offered requested).offered = offered.namespaced
  request : (m.judge table offered requested).requested = requested.namespaced
  again : m.judge (m.judge table offered requested).versions
      (m.judge table offered requested).offered (m.judge table offered requested).requested =
    m.judge table offered requested

theorem fleet_settles (defaults : FleetDefaults) (table : Versions)
    (offered requested : Capabilities) : (fleet defaults).Settles table offered requested where
  offer := by rw [judge_fleet]
  request := by rw [judge_fleet]
  again := judge_judge_fleet defaults table offered requested

theorem cloud_settles (table : Versions) (offered requested : Capabilities) :
    cloud.Settles table offered requested where
  offer := by simp only [judge]
  request := by simp only [judge]
  again := judge_judge_cloud table offered requested

/-- The verdict of `(fleet defaults).judge` is the same under every table, and the table it returns
differs from the given one at most in the entry of a browser that was `Noticed`. -/
structure FleetWrites (defaults : FleetDefaults) (table : Versions)
    (offered requested : Capabilities) : Prop where
  /-- The table has no say in the verdict. -/
  verdict : ∀ table', ((fleet defaults).judge table' offered requested).accepted =
    ((fleet defaults).judge table offered requested).accepted
  /-- The entry of the browser that is offered becomes the version that is stated. -/
  noticed : ∀ name version, Noticed offered requested name version → ∀ key,
    ((fleet defaults).judge table offered requested).versions.table.get? key =
      if key = Text.lower name then some (Text.trim version) else table.table.get? key
  /-- Otherwise nothing is written. -/
  unnoticed : (∀ name version, ¬Noticed offered requested name version) →
    ((fleet defaults).judge table offered requested).versions = table

theorem fleet_writes (defaults : FleetDefaults) (table : Versions)
    (offered requested : Capabilities) : FleetWrites defaults table offered requested where
  verdict table' := fleet_accepted_eq defaults table' table offered requested
  noticed _ _ h := get?_fleet_versions defaults table h
  unnoticed h := fleet_versions_of_unnoticed defaults table h

end BrowserGrid.Matcher
